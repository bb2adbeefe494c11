import Mathlib.Data.List.Forall2
import Mathlib.Tactic.Lemma

/-!
# Letters and their case

Only letters of the seven-bit range have a small and a capital form. So a statement on the case of
characters is settled by those below 128, which can be gone through, and by the characters that have no
case (`forall_char`). Two texts that differ in the case of letters only have the same small letters
(`Recased.map_toLower`).
-/

namespace CodeClones.Text

/-- What is so for every character of the seven-bit range and for every character without case is so for
all characters. -/
lemma forall_char {P : Char → Prop} (small : ∀ n < 128, P (.ofNat n))
    (caseless : ∀ c : Char, c.isAlpha = false → c.toLower = c → c.toUpper = c → P c) (c : Char) :
    P c := by
  by_cases below : c.toNat < 128
  · rw [← Char.ofNat_toNat c]
    exact small c.toNat below
  · have noCapital : ¬ ('A'.val ≤ c.val ∧ c.val ≤ 'Z'.val) :=
      fun capital => below (Nat.lt_of_le_of_lt capital.2 (by decide))
    have noSmall : ¬ ('a'.val ≤ c.val ∧ c.val ≤ 'z'.val) :=
      fun small => below (Nat.lt_of_le_of_lt small.2 (by decide))
    have isUpper : c.isUpper = false := decide_eq_false noCapital
    have isLower : c.isLower = false := by
      refine Bool.eq_false_iff.mpr fun small => noSmall ?_
      obtain ⟨first, last⟩ := Bool.and_eq_true_iff.mp small
      exact ⟨of_decide_eq_true first, of_decide_eq_true last⟩
    exact caseless c (Bool.or_eq_false_iff.mpr ⟨isUpper, isLower⟩) (dif_neg noCapital) (dif_neg noSmall)

/-- A small letter has no smaller form. -/
lemma toLower_toLower (c : Char) : c.toLower.toLower = c.toLower :=
  forall_char (P := fun c => c.toLower.toLower = c.toLower) (by decide)
    (fun _ _ lower _ => by rw [lower, lower]) c

/-- A letter and its capital have the same small form. -/
lemma toLower_toUpper (c : Char) : c.toUpper.toLower = c.toLower :=
  forall_char (P := fun c => c.toUpper.toLower = c.toLower) (by decide)
    (fun _ _ _ upper => by rw [upper]) c

/-- A character is the small form of itself, or the capital of that. -/
lemma eq_toLower_or_eq_toUpper (c : Char) : c = c.toLower ∨ c = c.toLower.toUpper :=
  forall_char (P := fun c => c = c.toLower ∨ c = c.toLower.toUpper) (by decide)
    (fun _ _ lower _ => .inl lower.symm) c

/-- The small form of a letter is a letter, and that of any other character is none. -/
lemma isAlpha_toLower (c : Char) : c.toLower.isAlpha = c.isAlpha :=
  forall_char (P := fun c => c.toLower.isAlpha = c.isAlpha) (by decide)
    (fun _ _ lower _ => by rw [lower]) c

/-- What is no letter has no other small form than itself. -/
lemma toLower_of_not_isAlpha {c : Char} (noLetter : c.isAlpha = false) : c.toLower = c :=
  forall_char (P := fun c => c.isAlpha = false → c.toLower = c) (by decide)
    (fun _ _ lower _ _ => lower) c noLetter

/-- Characters that differ at most in the case of letters, as far as these are letters of the seven-bit
range. -/
def Recased (chars chars' : List Char) : Prop :=
  List.Forall₂ (fun c d : Char => d = c ∨ d = c.toLower ∨ d = c.toUpper) chars chars'

instance (chars chars' : List Char) : Decidable (Recased chars chars') :=
  inferInstanceAs (Decidable
    (List.Forall₂ (fun c d : Char => d = c ∨ d = c.toLower ∨ d = c.toUpper) chars chars'))

namespace Recased

variable {chars chars' : List Char}

/-- Texts that differ in the case of letters only have the same small letters. -/
lemma map_toLower (h : Recased chars chars') :
    chars'.map Char.toLower = chars.map Char.toLower := by
  induction h with
  | nil => rfl
  | cons same _ ih =>
    rw [List.map_cons, List.map_cons, ih]
    rcases same with rfl | rfl | rfl
    · rfl
    · rw [toLower_toLower]
    · rw [toLower_toUpper]

/-- A text differs from its small letters in the case of letters only. -/
lemma of_toLower (chars : List Char) : Recased (chars.map Char.toLower) chars := by
  induction chars with
  | nil => exact .nil
  | cons c chars ih =>
    refine .cons ?_ ih
    rcases eq_toLower_or_eq_toUpper c with small | capital
    · exact .inl small
    · exact .inr (.inr capital)

/-- What is no letter was there before. -/
lemma mem_of_mem (h : Recased chars chars') {c : Char} (noLetter : c.isAlpha = false)
    (mem : c ∈ chars') : c ∈ chars := by
  have small : c.toLower ∈ chars.map Char.toLower := h.map_toLower ▸ List.mem_map_of_mem mem
  rw [toLower_of_not_isAlpha noLetter] at small
  obtain ⟨d, hd, rfl⟩ := List.mem_map.mp small
  rw [isAlpha_toLower] at noLetter
  rwa [toLower_of_not_isAlpha noLetter]

end Recased

end CodeClones.Text
