import CodeClones.Cst.Literal
import CodeClones.Proofs.Number.Digits

/-!
# Spellings of whole numbers

A whole number can be spelled with the digits of a base behind a mark for the base, in the old way with
octal digits behind a zero, or with its decimal digits (`Spelling`). In a text letters may be capitals, and
underscores may stand anywhere (`Styled`). All spellings of a number of up to a hundred and twenty-eight
bits have the value of its decimal digits, `numberLiteral_spelled`: what is made of a text is the value of
the characters behind its style (`numberLiteral_of_styled`), and those of a base are the digits of the same
number (`numeralValue?_based`). Beyond that size only the decimal digits have a value.
-/

namespace CodeClones.Cst

open Numeral (isDigitOf nearestDouble)

/-- The bases that have a letter as their mark. -/
def baseLetters : List (Nat × Char) :=
  [(16, 'x'), (8, 'o'), (2, 'b')]

/-- A way to spell whole numbers. -/
inductive Spelling where
  | marked (base : Nat) (letter : Char) (listed : (base, letter) ∈ baseLetters) (zeros : Nat)
  | oldOctal (zeros : Nat)
  | decimal

/-- The characters of a number, in small letters. -/
def Spelling.chars (n : Nat) : Spelling → List Char
  | marked base letter _ zeros => '0' :: letter :: (List.replicate zeros '0' ++ base.toDigits n)
  | oldOctal zeros => '0' :: (List.replicate zeros '0' ++ Nat.toDigits 8 n)
  | decimal => Nat.toDigits 10 n

/-- The texts that some characters are written as: in small letters or in capitals, and with underscores
anywhere. -/
inductive Styled : List Char → List Char → Prop
  | nil : Styled [] []
  | underscore {chars text : List Char} (rest : Styled chars text) : Styled chars ('_' :: text)
  | small {chars text : List Char} (c : Char) (rest : Styled chars text) : Styled (c :: chars) (c :: text)
  | capital {chars text : List Char} (c : Char) (rest : Styled chars text) :
    Styled (c :: chars) (c.toUpper :: text)

/-! ### The style of a text -/

/-- The digits of all bases and the letters that mark a base. -/
def numeralChars : List Char :=
  ['0', '1', '2', '3', '4', '5', '6', '7', '8', '9', 'a', 'b', 'c', 'd', 'e', 'f', 'o', 'x']

/-- Digits of a base of at most sixteen are characters of numerals. -/
lemma mem_numeralChars_of_mem_toDigits {base n : Nat} {c : Char} (two : 1 < base) (sixteen : base ≤ 16)
    (h : c ∈ base.toDigits n) : c ∈ numeralChars := by
  obtain ⟨d, small, rfl⟩ := Numeral.exists_digit_of_mem_toDigits two h
  have each : ∀ d < 16, d.digitChar ∈ numeralChars := by decide
  exact each d (Nat.lt_of_lt_of_le small sixteen)

/-- The bases with a letter are from two to sixteen, and their letters are characters of numerals. -/
lemma baseLetters_bounds {base : Nat} {letter : Char} (listed : (base, letter) ∈ baseLetters) :
    1 < base ∧ base ≤ 16 ∧ letter ∈ numeralChars := by
  have each : ∀ mark ∈ baseLetters, 1 < mark.1 ∧ mark.1 ≤ 16 ∧ mark.2 ∈ numeralChars := by decide
  exact each _ listed

/-- All characters of a spelling are characters of numerals. -/
lemma Spelling.subset_numeralChars (s : Spelling) (n : Nat) : s.chars n ⊆ numeralChars := by
  have zero : '0' ∈ numeralChars := List.mem_cons_self
  have padded {base : Nat} (two : 1 < base) (sixteen : base ≤ 16) (zeros : Nat) :
      List.replicate zeros '0' ++ base.toDigits n ⊆ numeralChars := by
    intro c hc
    rcases List.mem_append.mp hc with front | digit
    · rwa [List.eq_of_mem_replicate front]
    · exact mem_numeralChars_of_mem_toDigits two sixteen digit
  cases s with
  | marked base letter listed zeros =>
    obtain ⟨two, sixteen, letterMem⟩ := baseLetters_bounds listed
    exact List.cons_subset.mpr ⟨zero, List.cons_subset.mpr ⟨letterMem, padded two sixteen zeros⟩⟩
  | oldOctal zeros => exact List.cons_subset.mpr ⟨zero, padded (by decide) (by decide) zeros⟩
  | decimal => exact fun c hc => mem_numeralChars_of_mem_toDigits (by decide) (by decide) hc

/-- Without underscores and in small letters, a text is the characters again. -/
lemma Styled.cleaned {chars text : List Char} (h : Styled chars text) (plain : chars ⊆ numeralChars) :
    (text.filter (· != '_')).map Char.toLower = chars := by
  have all : numeralChars.all fun c =>
      c ≠ '_' ∧ c.toLower = c ∧ c.toUpper ≠ '_' ∧ c.toUpper.toLower = c := by decide
  have each {c : Char} (mem : c ∈ numeralChars) :
      c ≠ '_' ∧ c.toLower = c ∧ c.toUpper ≠ '_' ∧ c.toUpper.toLower = c :=
    of_decide_eq_true (List.all_eq_true.mp all c mem)
  induction h with
  | nil => rfl
  | underscore _ ih => exact ih plain
  | small c _ ih =>
    obtain ⟨mem, plain⟩ := List.cons_subset.mp plain
    obtain ⟨kept, lower, -, -⟩ := each mem
    rw [List.filter_cons_of_pos (by simpa using kept), List.map_cons, lower, ih plain]
  | capital c _ ih =>
    obtain ⟨mem, plain⟩ := List.cons_subset.mp plain
    obtain ⟨-, -, kept, lower⟩ := each mem
    rw [List.filter_cons_of_pos (by simpa using kept), List.map_cons, lower, ih plain]

/-- A number has the value of its characters, however they are styled, or else stays as it is written. -/
lemma numberLiteral_of_styled {chars : List Char} {text : String} (h : Styled chars text.toList)
    (plain : chars ⊆ numeralChars) :
    numberLiteral text = ((numeralValue? chars).map Literal.number).getD (.raw text) := by
  have cleaned := h.cleaned plain
  -- no numeral ends in the letter of a big integer
  have whole : (text.toList.filter (· != '_')).getLast? ≠ some 'n' := by
    intro last
    have mem : 'n' ∈ chars := by
      rw [← cleaned]
      exact List.mem_map.mpr ⟨'n', List.mem_of_getLast? last, rfl⟩
    exact absurd (plain mem) (by decide)
  rw [numberLiteral, if_neg whole, cleaned]
  cases numeralValue? chars <;> rfl

/-! ### The value of the characters -/

/-- Digits of a base have the double nearest to their number, up to a hundred and twenty-eight bits. -/
lemma wholeNumber?_toDigits {base : Nat} (two : 1 < base) (sixteen : base ≤ 16) (zeros n : Nat) :
    wholeNumber? base (List.replicate zeros '0' ++ base.toDigits n) =
      if n < 2 ^ 128 then some (nearestDouble false ⟨n, 0⟩) else none := by
  rw [wholeNumber?, Numeral.whole?_toDigits two sixteen]
  exact apply_ite (Option.map fun n => nearestDouble false ⟨n, 0⟩) (n < wholeLimit) (some n) none

/-- Decimal digits have no mark of a base among them. -/
lemma numeralValue?_of_digits {text : List Char} (digits : ∀ c ∈ text, isDigitOf 10 c) :
    numeralValue? text =
      if isOldOctal text then wholeNumber? 8 text else Numeral.double? text := by
  have noMark {letter : Char} {rest : List Char} (noDigit : isDigitOf 10 letter = false) :
      text ≠ '0' :: letter :: rest := by
    rintro rfl
    have digit := digits letter (List.mem_cons_of_mem _ List.mem_cons_self)
    exact absurd digit (Bool.eq_false_iff.mp noDigit)
  unfold numeralValue?
  split
  · exact absurd rfl (noMark (by decide))
  · exact absurd rfl (noMark (by decide))
  · exact absurd rfl (noMark (by decide))
  · rfl

/-- A zero and the letter of a base come before the digits of a number of that base. -/
lemma numeralValue?_marked {base : Nat} {letter : Char} (listed : (base, letter) ∈ baseLetters)
    (digits : List Char) : numeralValue? ('0' :: letter :: digits) = wholeNumber? base digits := by
  simp only [baseLetters, List.mem_cons, List.not_mem_nil, or_false, Prod.mk.injEq] at listed
  rcases listed with ⟨rfl, rfl⟩ | ⟨rfl, rfl⟩ | ⟨rfl, rfl⟩ <;> rfl

/-- Octal digits behind a zero are a number of base eight. -/
lemma numeralValue?_oldOctal {digits : List Char} (nonempty : digits ≠ [])
    (octal : ∀ c ∈ '0' :: digits, isDigitOf 8 c) :
    numeralValue? ('0' :: digits) = wholeNumber? 8 ('0' :: digits) := by
  have decimal : ∀ c ∈ '0' :: digits, isDigitOf 10 c := by
    intro c hc
    have small := of_decide_eq_true (octal c hc)
    exact decide_eq_true (by omega)
  have old : isOldOctal ('0' :: digits) := by
    have long : 1 < ('0' :: digits).length := Nat.succ_lt_succ (List.length_pos_iff.mpr nonempty)
    simp only [isOldOctal, long, List.all_eq_true.mpr octal, List.head?_cons, decide_true, beq_self_eq_true,
      Bool.and_self]
  rw [numeralValue?_of_digits decimal, if_pos old]

/-- A number with a base, however it is marked, has the double nearest to it. -/
lemma numeralValue?_based {s : Spelling} (based : s ≠ .decimal) (n : Nat) :
    numeralValue? (s.chars n) =
      if n < 2 ^ 128 then some (nearestDouble false ⟨n, 0⟩) else none := by
  cases s with
  | decimal => exact absurd rfl based
  | marked base letter listed zeros =>
    obtain ⟨two, sixteen, -⟩ := baseLetters_bounds listed
    exact (numeralValue?_marked listed _).trans (wholeNumber?_toDigits two sixteen zeros n)
  | oldOctal zeros =>
    have nonempty : List.replicate zeros '0' ++ Nat.toDigits 8 n ≠ [] :=
      List.append_ne_nil_of_right_ne_nil _ Nat.toDigits_ne_nil
    -- the zero in front is one more zero before the digits
    have octal : ∀ c ∈ List.replicate (zeros + 1) '0' ++ Nat.toDigits 8 n, isDigitOf 8 c :=
      Numeral.isDigitOf_padded (by decide) (by decide) (zeros + 1) n
    exact (numeralValue?_oldOctal nonempty octal).trans
      (wholeNumber?_toDigits (by decide) (by decide) (zeros + 1) n)

/-- A number without a mark is a decimal. -/
lemma numeralValue?_decimal (n : Nat) :
    numeralValue? (Spelling.decimal.chars n) = Numeral.double? (Nat.toDigits 10 n) := by
  have noOctal : isOldOctal (Nat.toDigits 10 n) = false := by
    cases n with
    | zero => decide
    | succ n =>
      have head : (Nat.toDigits 10 (n + 1)).head? ≠ some '0' :=
        Numeral.head_toDigits (by decide) (Nat.succ_pos n)
      simp [isOldOctal, head]
  rw [Spelling.chars, numeralValue?_of_digits (Numeral.isDigitOf_toDigits (by decide) (by decide) n),
    if_neg (Bool.eq_false_iff.mp noOctal)]

/-- All spellings of a number of up to a hundred and twenty-eight bits have the value of its decimal digits.
A larger number that is spelled in a base has no value and stays as it is written. -/
theorem numberLiteral_spelled (n : Nat) :
    (n < 2 ^ 128 →
      ∃ value, Numeral.double? (Nat.toDigits 10 n) = some value ∧
        ∀ (s : Spelling) (text : String), Styled (s.chars n) text.toList →
          numberLiteral text = .number value) ∧
    (2 ^ 128 ≤ n →
      ∀ (s : Spelling) (text : String), s ≠ .decimal → Styled (s.chars n) text.toList →
        numberLiteral text = .raw text) := by
  constructor
  · intro fits
    refine ⟨nearestDouble false ⟨n, 0⟩, Numeral.double?_toDigits n, ?_⟩
    intro s text styled
    have value : numeralValue? (s.chars n) = some (nearestDouble false ⟨n, 0⟩) := by
      by_cases decimal : s = .decimal
      · rw [decimal, numeralValue?_decimal, Numeral.double?_toDigits]
      · rw [numeralValue?_based decimal, if_pos fits]
    rw [numberLiteral_of_styled styled (s.subset_numeralChars n), value]
    rfl
  · intro large s text based styled
    rw [numberLiteral_of_styled styled (s.subset_numeralChars n), numeralValue?_based based,
      if_neg (Nat.not_lt.mpr large)]
    rfl

/-- The largest number of a hundred and twenty-eight bits, which is rounded up, and the next one. -/
theorem numberLiteral_spelled_boundary :
    let below := "0XFFFF_ffff_FFFF_ffff_FFFF_ffff_FFFF_ffff"
    let beyond := "0x_1_0000_0000_0000_0000_0000_0000_0000_0000"
    numberLiteral below = .number ⟨0x47F0000000000000⟩ ∧ numberLiteral beyond = .raw beyond := by
  intro below beyond
  let hexadecimal : Spelling := .marked 16 'x' (by decide) 0
  have spelledBelow : Styled (hexadecimal.chars (2 ^ 128 - 1)) below.toList := by
    have chars : hexadecimal.chars (2 ^ 128 - 1) = "0xffffffffffffffffffffffffffffffff".toList := by
      decide +kernel
    rw [chars]
    simp only [below, String.reduceToList]
    repeat constructor
  have spelledBeyond : Styled (hexadecimal.chars (2 ^ 128)) beyond.toList := by
    have chars : hexadecimal.chars (2 ^ 128) = "0x100000000000000000000000000000000".toList := by
      decide +kernel
    rw [chars]
    simp only [beyond, String.reduceToList]
    repeat constructor
  constructor
  · obtain ⟨value, read, all⟩ := (numberLiteral_spelled (2 ^ 128 - 1)).1 (by decide)
    have rounded : Numeral.double? (Nat.toDigits 10 (2 ^ 128 - 1)) = some ⟨0x47F0000000000000⟩ := by
      decide +kernel
    rw [all hexadecimal below spelledBelow, Option.some.inj (read.symm.trans rounded)]
  · exact (numberLiteral_spelled (2 ^ 128)).2 (Nat.le_refl _) hexadecimal beyond nofun spelledBeyond

end CodeClones.Cst
