import CodeClones.Number.Double
import Mathlib.Algebra.Group.Nat.Defs
import Mathlib.Tactic.Lemma

/-!
# The numbers that doubles stand for

A finite double is a whole multiple of the least positive one (`Double.units`). Two doubles that stand for the
same number have the same exponent and fraction (`fields_of_magnitude`), so they differ in the sign of zero at
most. Hence `same_iff`: doubles are the same just if they are equal as numbers or infinities.
-/

namespace CodeClones.Double

/-- How often the least positive double goes into a finite one, its sign left aside. -/
def magnitude (x : Double) : Nat :=
  x.significand * 2 ^ (x.exponent + 1074).toNat

/-- A finite double in units of the least positive one. -/
def units (x : Double) : Int :=
  if x.negative then -x.magnitude else x.magnitude

/-- Equality of numbers and infinities. What is no number is equal to nothing. -/
inductive Equal : Double → Double → Prop where
  | finite {x y : Double} :
    x.exponentField < 2047 →
    y.exponentField < 2047 →
    x.units = y.units →
    Equal x y
  | infinite {x y : Double} :
    x.isInfinite →
    y.isInfinite →
    x.negative = y.negative →
    Equal x y

section Fields

variable {x y : Double}

/-- A double is made of its sign, exponent and fraction. -/
lemma eq_of_fields (sign : x.negative = y.negative) (field : x.exponentField = y.exponentField)
    (fraction : x.fraction = y.fraction) : x = y := by
  have bits : x.bits.toNat = y.bits.toNat := by
    have belowX := x.bits.toNat_lt
    have belowY := y.bits.toNat_lt
    have top : signBit ≤ x.bits.toNat ↔ signBit ≤ y.bits.toNat := decide_eq_decide.mp sign
    simp only [signBit, exponentField, Double.fraction, hiddenBit] at top field fraction
    omega
  cases x
  cases y
  exact congrArg Double.mk (UInt64.toNat_inj.mp bits)

/-- The fraction is below the bit that stands in front of it. -/
lemma fraction_lt (x : Double) : x.fraction < hiddenBit :=
  Nat.mod_lt _ (by decide)

/-- The exponent has eleven bits. -/
lemma exponentField_le (x : Double) : x.exponentField ≤ 2047 :=
  Nat.le_of_lt_succ (Nat.mod_lt _ (by decide))

/-- With the least exponent a double counts as many units as its fraction. -/
lemma magnitude_of_zero (h : x.exponentField = 0) : x.magnitude = x.fraction := by
  rw [magnitude, significand, exponent, if_pos h, if_pos h]
  exact Nat.mul_one _

/-- With any other exponent a double counts its significand, doubled once for each exponent above the
first. -/
lemma magnitude_of_pos (h : 0 < x.exponentField) :
    x.magnitude = (hiddenBit + x.fraction) * 2 ^ (x.exponentField - 1) := by
  have shift : ((x.exponentField : Int) - 1075 + 1074).toNat = x.exponentField - 1 := by omega
  rw [magnitude, significand, exponent, if_neg (Nat.ne_of_gt h), if_neg (Nat.ne_of_gt h), shift]

/-- A double is smaller than all those with a larger exponent. -/
lemma magnitude_lt (h : x.exponentField < y.exponentField) : x.magnitude < y.magnitude := by
  have positive : 0 < y.exponentField := Nat.zero_lt_of_lt h
  calc x.magnitude < hiddenBit * 2 ^ x.exponentField := by
        by_cases zero : x.exponentField = 0
        · rw [magnitude_of_zero zero, zero]
          exact x.fraction_lt
        · have small := x.fraction_lt
          rw [magnitude_of_pos (Nat.pos_of_ne_zero zero)]
          calc (hiddenBit + x.fraction) * 2 ^ (x.exponentField - 1)
              < (hiddenBit * 2) * 2 ^ (x.exponentField - 1) :=
                Nat.mul_lt_mul_of_pos_right (by omega) (Nat.two_pow_pos _)
            _ = hiddenBit * 2 ^ x.exponentField := by
                rw [Nat.mul_assoc, ← Nat.pow_succ', Nat.succ_eq_add_one,
                  Nat.sub_add_cancel (Nat.pos_of_ne_zero zero)]
    _ ≤ hiddenBit * 2 ^ (y.exponentField - 1) :=
        Nat.mul_le_mul_left _ (Nat.pow_le_pow_right (by decide) (Nat.le_sub_one_of_lt h))
    _ ≤ (hiddenBit + y.fraction) * 2 ^ (y.exponentField - 1) :=
        Nat.mul_le_mul_right _ (Nat.le_add_right _ _)
    _ = y.magnitude := (magnitude_of_pos positive).symm

/-- Doubles of one magnitude have the same exponent and fraction. -/
lemma fields_of_magnitude (same : x.magnitude = y.magnitude) :
    x.exponentField = y.exponentField ∧ x.fraction = y.fraction := by
  have field : x.exponentField = y.exponentField := by
    rcases Nat.lt_trichotomy x.exponentField y.exponentField with less | equal | greater
    · exact absurd same (Nat.ne_of_lt (magnitude_lt less))
    · exact equal
    · exact absurd same.symm (Nat.ne_of_lt (magnitude_lt greater))
  refine ⟨field, ?_⟩
  by_cases zero : x.exponentField = 0
  · rw [← magnitude_of_zero zero, same, magnitude_of_zero (field ▸ zero)]
  · have positive := Nat.pos_of_ne_zero zero
    rw [magnitude_of_pos positive, magnitude_of_pos (field ▸ positive), field] at same
    exact Nat.add_left_cancel (Nat.mul_right_cancel (Nat.two_pow_pos _) same)

/-- A zero has neither exponent nor fraction. -/
lemma isZero_iff : x.isZero ↔ x.exponentField = 0 ∧ x.fraction = 0 := by
  rw [isZero, Bool.and_eq_true, beq_iff_eq, beq_iff_eq]

/-- An infinity has the greatest exponent and no fraction. -/
lemma isInfinite_iff : x.isInfinite ↔ x.exponentField = 2047 ∧ x.fraction = 0 := by
  rw [isInfinite, Bool.and_eq_true, beq_iff_eq, beq_iff_eq]

/-- What is a number is finite or an infinity. -/
lemma isNaN_eq_false_iff : x.isNaN = false ↔ x.exponentField < 2047 ∨ x.isInfinite := by
  have le := x.exponentField_le
  rw [isInfinite_iff, isNaN, Bool.and_eq_false_iff, beq_eq_false_iff_ne, bne_eq_false_iff_eq]
  omega

/-- Only the zeros have no magnitude. -/
lemma magnitude_eq_zero_iff : x.magnitude = 0 ↔ x.isZero := by
  rw [isZero_iff]
  constructor
  · intro h
    by_cases zero : x.exponentField = 0
    · exact ⟨zero, (magnitude_of_zero zero).symm.trans h⟩
    · rw [magnitude_of_pos (Nat.pos_of_ne_zero zero)] at h
      have positive : 0 < hiddenBit + x.fraction := Nat.add_pos_left (by decide) _
      exact absurd h (Nat.ne_of_gt (Nat.mul_pos positive (Nat.two_pow_pos _)))
  · rintro ⟨zero, fraction⟩
    rw [magnitude_of_zero zero, fraction]

/-- Doubles of equally many units have one magnitude, and one sign unless they are zeros. -/
lemma units_eq_units_iff :
    x.units = y.units ↔
      x.magnitude = y.magnitude ∧ (x.negative = y.negative ∨ x.magnitude = 0) := by
  rw [units, units]
  cases x.negative <;> cases y.negative <;> simp <;> omega

/-- Only zero is the same number with either sign. -/
lemma units_eq_iff : x.units = y.units ↔ x = y ∨ x.isZero ∧ y.isZero := by
  rw [units_eq_units_iff]
  constructor
  · rintro ⟨same, sign | zero⟩
    · obtain ⟨field, fraction⟩ := fields_of_magnitude same
      exact .inl (eq_of_fields sign field fraction)
    · exact .inr ⟨magnitude_eq_zero_iff.mp zero, magnitude_eq_zero_iff.mp (same ▸ zero)⟩
  · rintro (rfl | ⟨zero, zero'⟩)
    · exact ⟨rfl, .inl rfl⟩
    · have none := magnitude_eq_zero_iff.mpr zero
      exact ⟨none.trans (magnitude_eq_zero_iff.mpr zero').symm, .inr none⟩

end Fields

namespace Equal

variable {x y z : Double}

/-- Equality goes both ways. -/
lemma symm (h : Equal x y) : Equal y x := by
  cases h with
  | finite fx fy units => exact .finite fy fx units.symm
  | infinite ix iy sign => exact .infinite iy ix sign.symm

/-- Doubles equal to the same double are equal. -/
lemma trans (h : Equal x y) (h' : Equal y z) : Equal x z := by
  cases h with
  | finite fx fy units =>
    cases h' with
    | finite _ fz units' => exact .finite fx fz (units.trans units')
    | infinite iy _ _ => exact absurd (isInfinite_iff.mp iy).1 (Nat.ne_of_lt fy)
  | infinite ix iy sign =>
    cases h' with
    | finite fy _ _ => exact absurd (isInfinite_iff.mp iy).1 (Nat.ne_of_lt fy)
    | infinite _ iz sign' => exact .infinite ix iz (sign.trans sign')

/-- What is equal to anything is a number. -/
lemma isNaN_left (h : Equal x y) : x.isNaN = false := by
  rw [isNaN_eq_false_iff]
  cases h with
  | finite fx _ _ => exact .inl fx
  | infinite ix _ _ => exact .inr ix

/-- The two zeros are equal. -/
lemma of_isZero (zero : x.isZero) (zero' : y.isZero) : Equal x y := by
  have small {z : Double} (h : z.isZero) : z.exponentField < 2047 := by
    rw [(isZero_iff.mp h).1]
    decide
  exact .finite (small zero) (small zero') (units_eq_iff.mpr (.inr ⟨zero, zero'⟩))

end Equal

/-- Doubles are the same just if they are equal as numbers or infinities. -/
lemma same_iff (x y : Double) : x.same y ↔ Equal x y := by
  have bits : x.bits = y.bits ↔ x = y := by
    cases x
    cases y
    simp
  simp only [same, Bool.and_eq_true, Bool.not_eq_true', Bool.or_eq_true, beq_iff_eq, bits,
    isNaN_eq_false_iff]
  constructor
  · rintro ⟨⟨number, -⟩, rfl | ⟨zero, zero'⟩⟩
    · rcases number with finite | infinite
      · exact .finite finite finite rfl
      · exact .infinite infinite infinite rfl
    · exact .of_isZero zero zero'
  · intro h
    cases h with
    | finite fx fy units => exact ⟨⟨.inl fx, .inl fy⟩, units_eq_iff.mp units⟩
    | infinite ix iy sign =>
      obtain ⟨field, fraction⟩ := isInfinite_iff.mp ix
      obtain ⟨field', fraction'⟩ := isInfinite_iff.mp iy
      have equal := eq_of_fields sign (field.trans field'.symm) (fraction.trans fraction'.symm)
      exact ⟨⟨.inr ix, .inr iy⟩, .inl equal⟩

end CodeClones.Double
