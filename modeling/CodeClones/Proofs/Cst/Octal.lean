import CodeClones.Proofs.Cst.Escape
import Mathlib.Data.List.Infix

/-!
# Octal escapes

An octal escape is a backslash with one to three octal digits for a number of eight bits, as many as there
are. So a body of plain characters and octal escapes can be taken apart in one way only
(`OctalBody.unique`), and it stands for one character per part (`OctalPart.value`).

Escapes are resolved digit by digit instead: a zero behind a backslash becomes the character zero, any other
digit stays, and what follows is left as it is (`OctalPart.kept`). By `resolveEscapes_octal` this gives the
string that is meant where all escapes are `\0`, and nowhere else.
-/

namespace CodeClones.Cst

open Numeral (digitValue isDigitOf ofDigits)

/-- One to three octal digits for a number of eight bits. -/
structure IsOctal (digits : List Char) : Prop where
  nonempty : digits ≠ []
  short : digits.length ≤ 3
  octal : ∀ d ∈ digits, isDigitOf 8 d
  byte : ofDigits 8 digits ≤ 0o377

instance (digits : List Char) : Decidable (IsOctal digits) :=
  decidable_of_iff
    (digits ≠ [] ∧ digits.length ≤ 3 ∧ digits.all (isDigitOf 8) ∧ ofDigits 8 digits ≤ 0o377)
    ⟨fun ⟨nonempty, short, octal, byte⟩ => ⟨nonempty, short, List.all_eq_true.mp octal, byte⟩,
      fun h => ⟨h.nonempty, h.short, List.all_eq_true.mpr h.octal, h.byte⟩⟩

/-- With what follows them, the digits are as many as octal digits can be. -/
def Longest (digits rest : List Char) : Prop :=
  ∀ front ∈ (digits ++ rest).inits, IsOctal front → front.length ≤ digits.length

instance (digits rest : List Char) : Decidable (Longest digits rest) :=
  inferInstanceAs (Decidable (∀ front ∈ (digits ++ rest).inits, _ → _))

/-- A character of a body, or the digits behind a backslash. -/
inductive OctalPart where
  | plain (c : Char)
  | escape (digits : List Char)

namespace OctalPart

/-- How a part is written. -/
def text : OctalPart → List Char
  | plain c => [c]
  | escape digits => '\\' :: digits

/-- The character that a part stands for. -/
def value : OctalPart → Char
  | plain c => c
  | escape digits => .ofNat (ofDigits 8 digits)

/-- What becomes of a part. -/
def kept : OctalPart → List Char
  | plain c => [c]
  | escape [] => ['\\']
  | escape (d :: digits) => (if d = '0' then '\x00' else d) :: digits

end OctalPart

/-- The parts of a body that has plain characters and octal escapes only. -/
inductive OctalBody : List OctalPart → Prop where
  | nil : OctalBody []
  | plain {c parts} :
    c ≠ '\\' →
    OctalBody parts →
    OctalBody (.plain c :: parts)
  | escape {digits parts} :
    IsOctal digits →
    Longest digits (parts.flatMap OctalPart.text) →
    OctalBody parts →
    OctalBody (.escape digits :: parts)

/-- Of two ways to begin a text with as many octal digits as can be, neither is longer. -/
lemma Longest.unique {digits digits' rest rest' : List Char} (octal : IsOctal digits)
    (octal' : IsOctal digits') (longest : Longest digits rest) (longest' : Longest digits' rest')
    (same : digits ++ rest = digits' ++ rest') : digits = digits' ∧ rest = rest' := by
  have le : digits'.length ≤ digits.length := by
    refine longest digits' ?_ octal'
    rw [same, List.mem_inits]
    exact List.prefix_append digits' rest'
  have ge : digits.length ≤ digits'.length := by
    refine longest' digits ?_ octal
    rw [← same, List.mem_inits]
    exact List.prefix_append digits rest
  exact List.append_inj same (Nat.le_antisymm ge le)

/-- Behind a backslash an octal digit stands for itself, and a zero for the null character. -/
lemma resolve_octal {d : Char} (digit : isDigitOf 8 d) (rest : List Char) :
    resolve d rest = ([if d = '0' then '\x00' else d], rest) := by
  by_cases zero : d = '0'
  · rw [zero]
    rfl
  · rw [if_neg zero]
    refine resolve_self rest ?_ zero
    intro letter
    have noDigit : escapeLetters.all (!isDigitOf 8 ·) := by decide
    have other := List.all_eq_true.mp noDigit d letter
    rw [digit] at other
    cases other

/-- No digit but zero is kept as the character with its number. -/
lemma eq_zero_of_kept {d : Char} (digit : isDigitOf 8 d)
    (same : (if d = '0' then '\x00' else d) = .ofNat (digitValue d)) : d = '0' := by
  by_contra noZero
  rw [if_neg noZero] at same
  have noDigit : ∀ n < 8, isDigitOf 8 (Char.ofNat n) = false := by decide
  have small : digitValue d < 8 := of_decide_eq_true digit
  rw [same, noDigit _ small] at digit
  cases digit

namespace OctalBody

variable {parts : List OctalPart}

/-- A body has one reading only. -/
lemma unique (h : OctalBody parts) {parts' : List OctalPart} (h' : OctalBody parts')
    (same : parts'.flatMap OctalPart.text = parts.flatMap OctalPart.text) : parts' = parts := by
  induction h generalizing parts' with
  | nil =>
    cases h' with
    | nil => rfl
    | plain => cases same
    | escape => cases same
  | @plain c parts noEscape _ ih =>
    cases h' with
    | nil => cases same
    | plain _ later =>
      obtain ⟨rfl, rest⟩ := List.cons.inj same
      rw [ih later rest]
    | escape => exact absurd (List.cons.inj same).1.symm noEscape
  | @escape digits parts octal longest _ ih =>
    cases h' with
    | nil => cases same
    | plain noEscape _ => exact absurd (List.cons.inj same).1 noEscape
    | escape octal' longest' later =>
      obtain ⟨rfl, rest⟩ := Longest.unique octal' octal longest' longest (List.cons.inj same).2
      rw [ih later rest]

/-- Behind a backslash only the first digit is looked at. -/
lemma resolveAll_text (h : OctalBody parts) :
    resolveAll (parts.flatMap OctalPart.text) = parts.flatMap OctalPart.kept := by
  induction h with
  | nil => rw [List.flatMap_nil, List.flatMap_nil, resolveAll]
  | plain noEscape _ ih =>
    rw [List.flatMap_cons, List.flatMap_cons, ← ih]
    exact resolveAll_plain _ noEscape
  | @escape digits parts octal _ _ ih =>
    rw [List.flatMap_cons, List.flatMap_cons, ← ih]
    obtain ⟨d, digits, rfl⟩ := List.exists_cons_of_ne_nil octal.nonempty
    have plain : ∀ c ∈ digits, c ≠ '\\' := by
      rintro _ mem rfl
      exact absurd (octal.octal _ (List.mem_cons_of_mem d mem)) (by decide)
    have first := resolve_octal (octal.octal d List.mem_cons_self)
    calc resolveAll ('\\' :: d :: (digits ++ parts.flatMap OctalPart.text))
        = [if d = '0' then '\x00' else d] ++ resolveAll (digits ++ parts.flatMap OctalPart.text) :=
          resolveAll_of_resolve (first _)
      _ = _ := by rw [resolveAll_plains plain]; rfl

/-- Something is kept of every part. -/
lemma length_le_kept (h : OctalBody parts) :
    parts.length ≤ (parts.flatMap OctalPart.kept).length := by
  induction h with
  | nil => exact Nat.le_refl 0
  | plain _ _ ih => exact Nat.succ_le_succ ih
  | escape octal _ _ ih =>
    obtain ⟨d, digits, rfl⟩ := List.exists_cons_of_ne_nil octal.nonempty
    rw [List.flatMap_cons, List.length_append, List.length_cons, OctalPart.kept, List.length_cons]
    omega

/-- What is so for the escapes of a body is so for the first and for the others. -/
lemma forall_escape_cons {digits : List Char} {p : List Char → Prop} :
    (∀ digits', .escape digits' ∈ OctalPart.escape digits :: parts → p digits') ↔
      p digits ∧ ∀ digits', .escape digits' ∈ parts → p digits' := by
  simp only [List.mem_cons, OctalPart.escape.injEq, or_imp, forall_and, forall_eq]

/-- What is kept is what is meant just if all escapes are single zeros. -/
lemma kept_eq_value_iff (h : OctalBody parts) :
    parts.flatMap OctalPart.kept = parts.map OctalPart.value ↔
      ∀ digits, .escape digits ∈ parts → digits = ['0'] := by
  induction h with
  | nil => exact iff_of_true rfl nofun
  | plain _ _ ih =>
    rw [List.flatMap_cons, List.map_cons]
    simpa [OctalPart.kept, OctalPart.value] using ih
  | @escape digits parts octal _ body ih =>
    obtain ⟨d, digits, rfl⟩ := List.exists_cons_of_ne_nil octal.nonempty
    have digit := octal.octal d List.mem_cons_self
    rw [List.flatMap_cons, List.map_cons, forall_escape_cons, ← ih]
    constructor
    · intro same
      obtain ⟨first, rest⟩ : _ ∧ digits ++ _ = _ := List.cons.inj same
      -- there are as many characters as parts, so no digit is left behind the first one
      have alone : digits = [] := by
        have lengths := congrArg List.length rest
        rw [List.length_append, List.length_map] at lengths
        have enough := body.length_le_kept
        exact List.length_eq_zero_iff.mp (by omega)
      rw [alone] at first rest ⊢
      have value : ofDigits 8 [d] = digitValue d := by simp [ofDigits]
      rw [eq_zero_of_kept digit (first.trans (congrArg Char.ofNat value))]
      exact ⟨rfl, rest⟩
    · rintro ⟨zero, rest⟩
      cases zero
      rw [rest]
      rfl

end OctalBody

/-- Octal escapes come to what they stand for just if all of them are single zeros. Of any other one the
backslash is dropped and the digits stay, of which a zero in front becomes the character zero. -/
theorem resolveEscapes_octal {parts : List OctalPart} (h : OctalBody parts) :
    (∀ parts', OctalBody parts' →
      parts'.flatMap OctalPart.text = parts.flatMap OctalPart.text → parts' = parts) ∧
    resolveEscapes (.ofList (parts.flatMap OctalPart.text)) =
      .ofList (parts.flatMap OctalPart.kept) ∧
    (resolveEscapes (.ofList (parts.flatMap OctalPart.text)) = .ofList (parts.map OctalPart.value) ↔
      ∀ digits, .escape digits ∈ parts → digits = ['0']) := by
  have resolved : resolveEscapes (.ofList (parts.flatMap OctalPart.text)) =
      .ofList (parts.flatMap OctalPart.kept) := by
    rw [resolveEscapes, String.toList_ofList, h.resolveAll_text]
  refine ⟨fun _ => h.unique, resolved, ?_⟩
  rw [resolved, String.ofList_inj, h.kept_eq_value_iff]

/-- A zero before a digit that is not octal, and one at the end. -/
theorem resolveEscapes_octal_zeros :
    let parts : List OctalPart := [.escape ['0'], .plain '8', .plain '\n', .escape ['0']]
    OctalBody parts ∧ resolveEscapes "\\08\n\\0" = "\x008\n\x00" := by
  intro parts
  have body : OctalBody parts :=
    .escape (by decide) (by decide)
      (.plain (by decide) (.plain (by decide) (.escape (by decide) (by decide) .nil)))
  refine ⟨body, (resolveEscapes_octal body).2.2.mpr ?_⟩
  intro digits mem
  simpa [parts] using mem

/-- The escape of a letter comes to its digits, and the escape of a line feed, to a character zero before
two digits. -/
theorem resolveEscapes_octal_astray :
    let letter : List OctalPart := [.escape ['1', '0', '1']]
    let feed : List OctalPart := [.escape ['0', '1', '2']]
    (OctalBody letter ∧ resolveEscapes (.ofList (letter.flatMap OctalPart.text)) = "101" ∧
      .ofList (letter.map OctalPart.value) = "A") ∧
    (OctalBody feed ∧ resolveEscapes (.ofList (feed.flatMap OctalPart.text)) = "\x0012" ∧
      .ofList (feed.map OctalPart.value) = "\n") := by
  intro letter feed
  have octal : OctalBody letter := .escape (by decide) (by decide) .nil
  have octal' : OctalBody feed := .escape (by decide) (by decide) .nil
  exact ⟨⟨octal, by decide +kernel, by decide⟩, octal', by decide +kernel, by decide⟩

end CodeClones.Cst
