import CodeClones.Number.Numeral
import CodeClones.Proofs.Text.Letters
import Mathlib.Algebra.Group.Nat.Defs
import Mathlib.Data.List.Basic
import Mathlib.Data.List.Induction
import Mathlib.Data.List.TakeWhile
import Mathlib.Tactic.SplitIfs

/-!
# What digits denote

Digits are read from the front, and each of them makes what was read before it larger by one place
(`ofDigits_concat`). The number never shrinks on the way (`le_foldl_digits`) and stays below the power of
the base that has one place more (`ofDigits_lt`). Where the whole number reaches a limit, there is one
digit at which it does so first (`exists_reaching`).

The digits of a number denote that number (`ofDigits_toDigits`), and so they are read back, with zeros in
front as a whole number of a base (`whole?_toDigits`), and without as a decimal (`double?_toDigits`).

`Writes` says of a text that it consists of digits for a number, whichever of their letters are capitals
(`Writes.spelledAs`). A whole number is read off such a text, or off one with a plus sign in front of it, and
off nothing else (`whole?_eq_some_iff`).
-/

namespace CodeClones.Numeral

variable {base : Nat}

/-- The value of a digit is the number that it was made of. -/
lemma digitValue_digitChar {d : Nat} (h : d < 16) : digitValue d.digitChar = d := by
  revert d
  decide

/-- One more digit makes the number larger by one place. -/
lemma ofDigits_concat (base : Nat) (digits : List Char) (d : Char) :
    ofDigits base (digits ++ [d]) = ofDigits base digits * base + digitValue d := by
  rw [ofDigits, List.foldl_append]
  rfl

/-- More digits never make the number smaller. -/
lemma le_foldl_digits (h : 0 < base) (digits : List Char) (n : Nat) :
    n ≤ digits.foldl (fun n c => n * base + digitValue c) n := by
  induction digits generalizing n with
  | nil => exact Nat.le_refl n
  | cons c rest ih =>
    calc n ≤ n * base := Nat.le_mul_of_pos_right n h
      _ ≤ n * base + digitValue c := Nat.le_add_right _ _
      _ ≤ _ := ih _

/-- Digits denote a number below the power of the base with as many places. -/
lemma ofDigits_lt {digits : List Char} (h : ∀ c ∈ digits, isDigitOf base c) :
    ofDigits base digits < base ^ digits.length := by
  induction digits using List.reverseRecOn with
  | nil => exact Nat.one_pos
  | append_singleton digits d ih =>
    have below := ih fun c hc => h c (List.mem_append_left _ hc)
    have digit : digitValue d < base := by simpa [isDigitOf] using h d (by simp)
    rw [ofDigits_concat, List.length_append, List.length_singleton, Nat.pow_succ]
    calc ofDigits base digits * base + digitValue d
        < ofDigits base digits * base + base := Nat.add_lt_add_left digit _
      _ = (ofDigits base digits + 1) * base := (Nat.succ_mul _ _).symm
      _ ≤ base ^ digits.length * base := Nat.mul_le_mul_right base below

/-- Digits that denote a number beyond a limit have a first digit at which the limit is reached. -/
lemma exists_reaching {limit : Nat} (positive : 0 < limit) {digits : List Char}
    (h : limit ≤ ofDigits base digits) :
    ∃ front d back, digits = front ++ d :: back ∧ ofDigits base front < limit ∧
      limit ≤ ofDigits base (front ++ [d]) := by
  induction digits using List.reverseRecOn with
  | nil => exact absurd h (Nat.not_le.mpr positive)
  | append_singleton digits d ih =>
    by_cases before : limit ≤ ofDigits base digits
    · obtain ⟨front, first, back, rfl, below, reached⟩ := ih before
      exact ⟨front, first, back ++ [d], by simp, below, reached⟩
    · exact ⟨digits, d, [], rfl, Nat.not_le.mp before, h⟩

/-! ### The digits of a number -/

section ToDigits

variable (two : 1 < base)
include two

/-- The digits of a number are those of a smaller one and a last digit, unless there is only one. -/
lemma toDigits_induct {p : Nat → List Char → Prop} (single : ∀ d < base, p d [d.digitChar])
    (concat : ∀ n d, 0 < n → d < base → p n (base.toDigits n) →
      p (n * base + d) (base.toDigits n ++ [d.digitChar])) (n : Nat) :
    p n (base.toDigits n) := by
  induction n using Nat.strongRecOn with
  | ind n ih =>
    by_cases alone : n < base
    · rw [Nat.toDigits_of_lt_base alone]
      exact single n alone
    · have positive : 0 < n / base := Nat.div_pos (Nat.not_lt.mp alone) (by omega)
      have last : n % base < base := Nat.mod_lt n (by omega)
      have front := ih (n / base) (Nat.div_lt_self (by omega) two)
      have whole := concat (n / base) (n % base) positive last front
      rw [Nat.div_add_mod'] at whole
      rw [Nat.toDigits_of_base_le two (Nat.not_lt.mp alone)]
      exact whole

/-- Every character among the digits of a number is the digit of some number below the base. -/
lemma exists_digit_of_mem_toDigits {n : Nat} {c : Char} (h : c ∈ base.toDigits n) :
    ∃ d < base, c = d.digitChar := by
  have each : ∀ c ∈ base.toDigits n, ∃ d < base, c = d.digitChar := by
    refine toDigits_induct two (p := fun _ digits => ∀ c ∈ digits, ∃ d < base, c = d.digitChar) ?_ ?_ n
    · intro d small c hc
      exact ⟨d, small, List.mem_singleton.mp hc⟩
    · intro n d _ small ih c hc
      rcases List.mem_append.mp hc with front | last
      · exact ih c front
      · exact ⟨d, small, List.mem_singleton.mp last⟩
  exact each c h

/-- Only the digits of zero start with a zero. -/
lemma head_toDigits {n : Nat} (h : 0 < n) : (base.toDigits n).head? ≠ some '0' := by
  refine toDigits_induct two (p := fun n digits => 0 < n → digits.head? ≠ some '0') ?_ ?_ n h
  · intro d _ positive
    simpa using Nat.ne_of_gt positive
  · intro n d positive _ ih _
    rw [List.head?_append_of_ne_nil _ Nat.toDigits_ne_nil]
    exact ih positive

variable (sixteen : base ≤ 16)
include sixteen

/-- The digits of a number in a base are digits of that base. -/
lemma isDigitOf_toDigits (n : Nat) : ∀ c ∈ base.toDigits n, isDigitOf base c := by
  intro c hc
  obtain ⟨d, small, rfl⟩ := exists_digit_of_mem_toDigits two hc
  have value := digitValue_digitChar (Nat.lt_of_lt_of_le small sixteen)
  simpa [isDigitOf, value] using small

/-- The digits of a number denote the number. -/
lemma ofDigits_toDigits (n : Nat) : ofDigits base (base.toDigits n) = n := by
  refine toDigits_induct two (p := fun n digits => ofDigits base digits = n) ?_ ?_ n
  · intro d small
    have value := digitValue_digitChar (Nat.lt_of_lt_of_le small sixteen)
    simp [ofDigits, value]
  · intro n d _ small ih
    rw [ofDigits_concat, ih, digitValue_digitChar (Nat.lt_of_lt_of_le small sixteen)]

end ToDigits

/-! ### Reading digits back -/

/-- Zeros in front make no difference. -/
lemma ofDigits_zeros (base zeros : Nat) (digits : List Char) :
    ofDigits base (List.replicate zeros '0' ++ digits) = ofDigits base digits := by
  induction zeros with
  | zero => rfl
  | succ zeros ih =>
    have zero : ∀ rest, ofDigits base ('0' :: rest) = ofDigits base rest := by
      intro rest
      rw [ofDigits, List.foldl_cons, Nat.zero_mul]
      rfl
    rw [List.replicate_succ, List.cons_append, zero, ih]

/-- Digits of a base are read as the number that they denote, up to the limit. -/
lemma whole?_of_digits {text : List Char} (nonempty : text ≠ []) (thirtySix : base ≤ 36)
    (digits : ∀ c ∈ text, isDigitOf base c) (limit : Nat) :
    whole? base limit text = if ofDigits base text < limit then some (ofDigits base text) else none := by
  have read : digits? base text = some (ofDigits base text) :=
    if_pos ⟨nonempty, List.all_eq_true.mpr digits⟩
  unfold whole?
  split
  · -- a plus sign is no digit of any base
    have plus := digits '+' List.mem_cons_self
    have none : digitValue '+' = 36 := by decide
    simp only [isDigitOf, none, decide_eq_true_eq] at plus
    omega
  · simp only [read, Option.filter_some, decide_eq_true_eq]

section Padded

variable (two : 1 < base) (sixteen : base ≤ 16)
include two sixteen

/-- The digits of a number are digits of the base with zeros in front as well. -/
lemma isDigitOf_padded (zeros n : Nat) :
    ∀ c ∈ List.replicate zeros '0' ++ base.toDigits n, isDigitOf base c := by
  intro c hc
  rcases List.mem_append.mp hc with zero | digit
  · rw [List.eq_of_mem_replicate zero]
    exact decide_eq_true (Nat.lt_of_succ_lt two)
  · exact isDigitOf_toDigits two sixteen n c digit

/-- The digits of a number, with zeros in front, are read as the number, up to the limit. -/
lemma whole?_toDigits (zeros n limit : Nat) :
    whole? base limit (List.replicate zeros '0' ++ base.toDigits n) =
      if n < limit then some n else none := by
  have digits := isDigitOf_padded two sixteen zeros n
  have nonempty : List.replicate zeros '0' ++ base.toDigits n ≠ [] :=
    List.append_ne_nil_of_right_ne_nil _ Nat.toDigits_ne_nil
  rw [whole?_of_digits nonempty (by omega) digits, ofDigits_zeros, ofDigits_toDigits two sixteen]

end Padded

section Decimal

variable (n : Nat)

/-- The decimal digits of a number are decimal digits. -/
lemma isDigit_toDigits : ∀ c ∈ Nat.toDigits 10 n, c.isDigit :=
  fun c hc => Nat.isDigit_of_mem_toDigits (by decide) (by decide) hc

/-- What is no decimal digit is not among those of a number. -/
lemma not_mem_toDigits {c : Char} (h : c.isDigit = false) : c ∉ Nat.toDigits 10 n := by
  intro mem
  rw [isDigit_toDigits n c mem] at h
  cases h

/-- A number can be told from its decimal digits. -/
lemma toDigits_injective : Function.Injective (Nat.toDigits 10) :=
  Function.LeftInverse.injective (ofDigits_toDigits (by decide) (by decide))

/-- The digits of a number have no sign in front. -/
lemma splitSign_toDigits : splitSign (Nat.toDigits 10 n) = (false, Nat.toDigits 10 n) := by
  have digits := isDigit_toDigits n
  unfold splitSign
  split
  · next rest text => exact absurd (digits '-' (text ▸ List.mem_cons_self)) (by decide)
  · next rest text => exact absurd (digits '+' (text ▸ List.mem_cons_self)) (by decide)
  · rfl

/-- Every word has a letter that no digit becomes. -/
lemma word?_toDigits : word? false (Nat.toDigits 10 n) = none := by
  have noN : 'n' ∉ (Nat.toDigits 10 n).map Char.toLower := by
    intro h
    obtain ⟨c, hc, lower⟩ := List.mem_map.mp h
    obtain ⟨d, small, rfl⟩ := exists_digit_of_mem_toDigits (by decide) hc
    have other : ∀ d < 10, d.digitChar.toLower ≠ 'n' := by decide
    exact other d small lower
  have other : ∀ word : String, 'n' ∈ word.toList →
      String.ofList ((Nat.toDigits 10 n).map Char.toLower) ≠ word := by
    intro word letter same
    rw [← same, String.toList_ofList] at letter
    exact noN letter
  have noInfinity := not_or.mpr ⟨other "inf" (by decide), other "infinity" (by decide)⟩
  exact (if_neg noInfinity).trans (if_neg (other "nan" (by decide)))

/-- The decimal digits of a number are read as the number, without an exponent. -/
lemma decimal?_toDigits : decimal? (Nat.toDigits 10 n) = some ⟨n, 0⟩ := by
  have whole := List.takeWhile_eq_self_iff.mpr (isDigit_toDigits n)
  have rest := List.dropWhile_eq_nil_iff.mpr (isDigit_toDigits n)
  have value : ofDigits 10 (Nat.toDigits 10 n) = n := ofDigits_toDigits (by decide) (by decide) n
  simp [decimal?, whole, rest, value, exponent?, Nat.toDigits_ne_nil]

/-- The decimal digits of a number are read as the double nearest to it. -/
lemma double?_toDigits : double? (Nat.toDigits 10 n) = some (nearestDouble false ⟨n, 0⟩) := by
  simp only [double?, splitSign_toDigits, word?_toDigits, decimal?_toDigits, Option.map_some]

end Decimal

/-! ### Texts of digits -/

variable {n : Nat}

/-- One or more digits of a base that denote a number. -/
structure Writes (base : Nat) (text : List Char) (n : Nat) : Prop where
  nonempty : text ≠ []
  digits : ∀ d ∈ text, isDigitOf base d
  value : ofDigits base text = n

/-- Digits are read as a number just when they write it. -/
lemma digits?_eq_some_iff {text : List Char} : digits? base text = some n ↔ Writes base text n := by
  rw [digits?]
  constructor
  · intro h
    split_ifs at h with written
    exact ⟨written.1, List.all_eq_true.mp written.2, Option.some.inj h⟩
  · rintro ⟨nonempty, digits, rfl⟩
    exact if_pos ⟨nonempty, List.all_eq_true.mpr digits⟩

/-- What may stand in front of the digits of a whole number. -/
def signs : List (List Char) :=
  [[], ['+']]

/-- A whole number is read off digits that write it, perhaps behind a plus sign, up to the limit. -/
lemma whole?_eq_some_iff {limit : Nat} {text : List Char} (thirtySix : base ≤ 36) :
    whole? base limit text = some n ↔
      n < limit ∧ ∃ sign ∈ signs, ∃ digits, text = sign ++ digits ∧ Writes base digits n := by
  constructor
  · intro h
    unfold whole? at h
    split at h
    · next rest =>
      obtain ⟨read, below⟩ := Option.filter_eq_some_iff.mp h
      exact ⟨of_decide_eq_true below, ['+'], by decide, rest, rfl, digits?_eq_some_iff.mp read⟩
    · obtain ⟨read, below⟩ := Option.filter_eq_some_iff.mp h
      exact ⟨of_decide_eq_true below, [], by decide, text, rfl, digits?_eq_some_iff.mp read⟩
  · rintro ⟨below, sign, mem, digits, rfl, written⟩
    simp only [signs, List.mem_cons, List.not_mem_nil, or_false] at mem
    rcases mem with rfl | rfl
    · rw [List.nil_append, whole?_of_digits written.nonempty thirtySix written.digits, written.value,
        if_pos below]
    · have read := digits?_eq_some_iff.mpr written
      show (digits? base digits).filter (· < limit) = some n
      rw [read, Option.filter_some, if_pos (decide_eq_true below)]

/-- The digits of a number, with zeros in front, write the number. -/
lemma writes_padded (two : 1 < base) (sixteen : base ≤ 16) (zeros n : Nat) :
    Writes base (List.replicate zeros '0' ++ base.toDigits n) n := by
  refine ⟨?_, isDigitOf_padded two sixteen zeros n, ?_⟩
  · exact List.append_ne_nil_of_right_ne_nil _ Nat.toDigits_ne_nil
  · rw [ofDigits_zeros, ofDigits_toDigits two sixteen]

/-- Characters of which any letters may have become capitals. -/
def SpelledAs (chars text : List Char) : Prop :=
  List.Forall₂ (fun d c => c = d ∨ c = d.toUpper) chars text

instance (chars text : List Char) : Decidable (SpelledAs chars text) :=
  inferInstanceAs (Decidable (List.Forall₂ (fun d c => c = d ∨ c = d.toUpper) chars text))

/-- A digit and its capital have the same value. -/
lemma digitValue_toUpper (c : Char) : digitValue c.toUpper = digitValue c :=
  Text.forall_char (P := fun c => digitValue c.toUpper = digitValue c) (by decide)
    (fun _ _ _ upper => by rw [upper]) c

/-- Digits have the same values as their capitals. -/
lemma SpelledAs.map_digitValue {chars text : List Char} (h : SpelledAs chars text) :
    text.map digitValue = chars.map digitValue := by
  induction h with
  | nil => rfl
  | cons same _ ih =>
    rcases same with rfl | rfl
    · rw [List.map_cons, List.map_cons, ih]
    · rw [List.map_cons, List.map_cons, ih, digitValue_toUpper]

/-- Whether a letter among digits is a capital makes no difference. -/
lemma Writes.spelledAs {digits text : List Char} (h : Writes base digits n)
    (spelled : SpelledAs digits text) : Writes base text n := by
  have values := spelled.map_digitValue
  refine ⟨?_, ?_, ?_⟩
  · rintro rfl
    exact h.nonempty (List.forall₂_nil_right_iff.mp spelled)
  · intro c mem
    have value : digitValue c ∈ digits.map digitValue := values ▸ List.mem_map_of_mem mem
    obtain ⟨d, hd, same⟩ := List.mem_map.mp value
    rw [isDigitOf, ← same]
    exact h.digits d hd
  · have fold : ∀ chars, ofDigits base chars =
        (chars.map digitValue).foldl (fun n value => n * base + value) 0 := by
      intro chars
      rw [ofDigits, List.foldl_map]
    rw [← h.value, fold, fold, values]

end CodeClones.Numeral
