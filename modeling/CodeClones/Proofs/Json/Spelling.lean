import CodeClones.Json.Token
import Mathlib.Data.List.Chain
import Mathlib.Tactic.Lemma

/-!
# How tokens are spelled

The grammar of JSON texts below the level of values, said without a reader: how numbers, strings and the
other tokens are written, and that blanks may stand before, between and behind them. A token mostly has
many spellings. Whatever spelling a list of tokens has, cutting the text into tokens gives the list back
(`tokens_of_spaced`), as long as no two numbers stand side by side.
-/

namespace CodeClones.Json

namespace Number

/-- Digits, at least one of them. -/
def IsDigitRun (digits : List Char) : Prop :=
  digits ≠ [] ∧ ∀ c ∈ digits, c.isDigit

/-- The digits after a point, and how they are written. -/
inductive FractionSpelled : List Char → List Char → Prop where
  | absent :
    FractionSpelled [] []
  | present {digits} :
    IsDigitRun digits →
    FractionSpelled digits ('.' :: digits)

/-- Whether the sign of an exponent is negative, and how it is written. -/
inductive SignSpelled : Bool → List Char → Prop where
  | absent :
    SignSpelled false []
  | plus :
    SignSpelled false ['+']
  | minus :
    SignSpelled true ['-']

/-- The sign and the digits of an exponent, and how they are written. -/
inductive ExponentSpelled : Option (Bool × List Char) → List Char → Prop where
  | absent :
    ExponentSpelled none []
  | present {mark negative sign digits} :
    mark = 'e' ∨ mark = 'E' →
    SignSpelled negative sign →
    IsDigitRun digits →
    ExponentSpelled (some (negative, digits)) (mark :: (sign ++ digits))

/-- The parts of a number, and how it is written. No zero stands in front of another digit. -/
inductive Parts.Spelled : Parts → List Char → Prop where
  | intro {negative minus whole fraction fractionText exponent exponentText} :
    (minus = if negative then ['-'] else []) →
    IsDigitRun whole →
    (whole.head? = some '0' → whole = ['0']) →
    FractionSpelled fraction fractionText →
    ExponentSpelled exponent exponentText →
    Spelled ⟨negative, whole, fraction, exponent⟩
      (minus ++ (whole ++ (fractionText ++ exponentText)))

/-- A text that does not go on with the number in front of it. -/
def Ended (rest : List Char) : Prop :=
  ∀ c ∈ rest.head?, c.isDigit = false ∧ c ≠ '.' ∧ c ≠ 'e' ∧ c ≠ 'E'

end Number

/-- A piece of a string, and how it is written. -/
inductive Piece.Spelled : Piece → List Char → Prop where
  | plain {c} :
    0x20 ≤ c.toNat →
    c ≠ '"' →
    c ≠ '\\' →
    Spelled (.char c) [c]
  | short {letter c} :
    shortEscape? letter = some c →
    Spelled (.char c) ['\\', letter]
  | unit {a b c d n} :
    fourHex? a b c d = some n →
    Spelled (.unit n) ['\\', 'u', a, b, c, d]

/-- A token, and how it is written. -/
inductive Token.Spelled : Token → List Char → Prop where
  | mark {c token} :
    mark? c = some token →
    Spelled token [c]
  | null :
    Spelled .null ['n', 'u', 'l', 'l']
  | yes :
    Spelled (.bool true) ['t', 'r', 'u', 'e']
  | no :
    Spelled (.bool false) ['f', 'a', 'l', 's', 'e']
  | number {parts : Number.Parts} {text} :
    parts.Spelled text →
    Spelled (.number parts.value) text
  | string {pieces texts} :
    List.Forall₂ Piece.Spelled pieces texts →
    Spelled (.string ((joinUnits? pieces).map String.ofList)) ('"' :: (texts.flatten ++ ['"']))

/-- Tokens, and how they are written one after the other, with blanks around them. -/
inductive Spaced : List Token → List Char → Prop where
  | nil {blanks} :
    (∀ c ∈ blanks, isSpace c) →
    Spaced [] blanks
  | cons {blanks token word tokens rest} :
    (∀ c ∈ blanks, isSpace c) →
    token.Spelled word →
    Spaced tokens rest →
    Spaced (token :: tokens) (blanks ++ (word ++ rest))

/-- Whether a token is a number. -/
def Token.isNumber : Token → Bool
  | .number _ => true
  | _ => false

/-- Tokens no two neighbours of which are numbers. -/
def Separate (tokens : List Token) : Prop :=
  tokens.IsChain fun a b => a.isNumber = false ∨ b.isNumber = false

/-! ### Numbers -/

namespace Number

/-- A run of digits has a first digit. -/
lemma IsDigitRun.cons {digits : List Char} (h : IsDigitRun digits) :
    ∃ c rest, digits = c :: rest ∧ c.isDigit := by
  cases digits with
  | nil => exact absurd rfl h.1
  | cons c rest => exact ⟨c, rest, rfl, h.2 c List.mem_cons_self⟩

/-- A run of digits is taken as far as digits go. -/
lemma digitRun?_append {digits rest : List Char} (h : IsDigitRun digits)
    (stop : ∀ c ∈ rest.head?, c.isDigit = false) :
    digitRun? (digits ++ rest) = some (digits, rest) := by
  have none_taken : rest.takeWhile Char.isDigit = [] ∧ rest.dropWhile Char.isDigit = rest := by
    cases rest with
    | nil => exact ⟨rfl, rfl⟩
    | cons c rest => simp [stop c rfl]
  rw [digitRun?, List.takeWhile_append_of_pos h.2, List.dropWhile_append_of_pos h.2,
    none_taken.1, none_taken.2, List.append_nil]
  obtain ⟨c, others, rfl, -⟩ := h.cons
  rfl

/-- Where a number ends, no digit follows. -/
lemma Ended.digit {rest : List Char} (h : Ended rest) : ∀ c ∈ rest.head?, c.isDigit = false :=
  fun c hc => (h c hc).1

/-- What is written behind the digits before the point never starts with a digit. -/
lemma ExponentSpelled.head {exponent : Option (Bool × List Char)} {text rest : List Char}
    (h : ExponentSpelled exponent text) (ended : Ended rest) :
    ∀ c ∈ (text ++ rest).head?, c.isDigit = false ∧ c ≠ '.' := by
  cases h with
  | absent => exact fun c hc => ⟨(ended c hc).1, (ended c hc).2.1⟩
  | @present mark _ _ _ hmark _ _ =>
    rintro c ⟨⟩
    rcases hmark with rfl | rfl <;> decide

/-- An exponent, or none, is taken as it is written. -/
lemma exponentPart?_append {exponent : Option (Bool × List Char)} {text rest : List Char}
    (h : ExponentSpelled exponent text) (ended : Ended rest) :
    exponentPart? (text ++ rest) = some (exponent, rest) := by
  cases h with
  | absent =>
    cases rest with
    | nil => rfl
    | cons c rest =>
      obtain ⟨-, -, small, capital⟩ := ended c rfl
      rw [List.nil_append, exponentPart?, if_neg (not_or.mpr ⟨small, capital⟩)]
  | @present mark negative sign digits hmark hsign hdigits =>
    have split : Numeral.splitSign (sign ++ digits ++ rest) = (negative, digits ++ rest) := by
      cases hsign with
      | absent =>
        obtain ⟨c, others, rfl, hc⟩ := hdigits.cons
        have minus : c ≠ '-' := by rintro rfl; simp at hc
        have plus : c ≠ '+' := by rintro rfl; simp at hc
        simp [Numeral.splitSign, minus, plus]
      | plus => rfl
      | minus => rfl
    rw [List.cons_append, exponentPart?, if_pos hmark, split]
    simp only [digitRun?_append hdigits ended.digit, Option.map_some]

/-- A fraction, or none, is taken as it is written. -/
lemma fractionPart?_append {fraction text rest : List Char} (h : FractionSpelled fraction text)
    (next : ∀ c ∈ rest.head?, c.isDigit = false ∧ c ≠ '.') :
    fractionPart? (text ++ rest) = some (fraction, rest) := by
  cases h with
  | absent =>
    cases rest with
    | nil => rfl
    | cons c rest => simp [fractionPart?, (next c rfl).2]
  | present digits =>
    rw [List.cons_append, fractionPart?]
    exact digitRun?_append digits fun c hc => (next c hc).1

/-- A whole part without zeros in front is taken as it is written. -/
lemma wholePart?_append {whole rest : List Char} (h : IsDigitRun whole)
    (noZero : whole.head? = some '0' → whole = ['0'])
    (next : ∀ c ∈ rest.head?, c.isDigit = false) :
    wholePart? (whole ++ rest) = some (whole, rest) := by
  have allowed : ¬ (whole.head? = some '0' ∧ 1 < whole.length) := by
    rintro ⟨zero, long⟩
    rw [noZero zero] at long
    exact absurd long (by decide)
  simp only [wholePart?, digitRun?_append h next, Option.bind_eq_bind, Option.bind_some]
  rw [if_neg allowed]

/-- The parts of a number are taken as they are written. -/
lemma parts?_append {parts : Parts} {text rest : List Char} (h : parts.Spelled text)
    (ended : Ended rest) : parts? (text ++ rest) = some (parts, rest) := by
  cases h with
  | @intro negative minus whole fraction fractionText exponent exponentText hminus hwhole noZero
      hfraction hexponent =>
    have behind := hexponent.head ended
    have next : ∀ c ∈ (fractionText ++ (exponentText ++ rest)).head?, c.isDigit = false := by
      cases hfraction with
      | absent => exact fun c hc => (behind c hc).1
      | present _ =>
        rintro c ⟨⟩
        rfl
    have unsigned : unsignedParts? negative
        (whole ++ (fractionText ++ (exponentText ++ rest))) =
          some (⟨negative, whole, fraction, exponent⟩, rest) := by
      simp only [unsignedParts?, wholePart?_append hwhole noZero next, Option.bind_some,
        fractionPart?_append hfraction behind, exponentPart?_append hexponent ended,
        Option.map_some]
    simp only [List.append_assoc]
    cases negative with
    | true =>
      rw [hminus]
      exact unsigned
    | false =>
      -- the first digit is no minus sign, so nothing is taken for one
      rw [hminus]
      obtain ⟨c, others, rfl, hc⟩ := hwhole.cons
      have positive : c ≠ '-' := by rintro rfl; simp at hc
      simp only [Bool.false_eq_true, if_false, List.nil_append, List.cons_append] at unsigned ⊢
      rw [parts?, unsigned]
      rintro text ⟨⟩
      exact positive rfl

/-- A number starts with a digit or a minus sign. -/
lemma Parts.Spelled.cons {parts : Parts} {text : List Char} (h : parts.Spelled text) :
    ∃ c rest, text = c :: rest ∧ (c.isDigit ∨ c = '-') := by
  cases h with
  | @intro negative _ _ _ _ _ _ hminus hwhole _ _ _ =>
    cases negative with
    | true => exact ⟨'-', _, by rw [hminus]; rfl, .inr rfl⟩
    | false =>
      obtain ⟨c, others, rfl, hc⟩ := hwhole.cons
      exact ⟨c, _, by rw [hminus]; rfl, .inl hc⟩

end Number

/-! ### Strings -/

/-- Behind the pieces of a string, written in any way, the closing quote ends it. -/
lemma stringPieces?_append {pieces : List Piece} {texts : List (List Char)}
    (h : List.Forall₂ Piece.Spelled pieces texts) (rest : List Char) :
    stringPieces? (texts.flatten ++ '"' :: rest) = some (pieces, rest) := by
  induction h with
  | nil => rfl
  | @cons piece text pieces texts hp _ ih =>
    rw [List.flatten_cons, List.append_assoc]
    cases hp with
    | @plain c printable quote escape =>
      rw [List.singleton_append, stringPieces?, ih]
      · simp [escape, Nat.not_lt.mpr printable]
      all_goals simp_all
    | @short letter c hc =>
      have notUnit : letter ≠ 'u' := by rintro rfl; cases hc
      simp [stringPieces?, hc, ih, notUnit]
    | @unit a b c d n hn =>
      simp [stringPieces?, hn, ih]

/-! ### Tokens -/

/-- A token that starts with a digit or a minus sign is a number. -/
lemma firstToken?_number {c : Char} {rest : List Char} (h : c.isDigit ∨ c = '-') :
    firstToken? (c :: rest) =
      (Number.parts? (c :: rest)).map fun (parts, after) => (.number parts.value, after) := by
  have other (d : Char) (hd : d.isDigit = false) (minus : d ≠ '-') : c ≠ d := by
    rintro rfl
    rcases h with h | h
    · rw [hd] at h
      cases h
    · exact minus h
  have noMark : mark? c = none := by
    rw [mark?]
    all_goals exact other _ rfl (by decide)
  rw [firstToken?]
  · rw [noMark]
  -- the words and the quote, none of which starts a number
  · exact fun _ letter _ => other 'n' rfl (by decide) letter
  · exact fun _ letter _ => other 't' rfl (by decide) letter
  · exact fun _ letter _ => other 'f' rfl (by decide) letter
  · exact other '"' rfl (by decide)

/-- A token that is written in any way is the first token of a text that starts with it. -/
lemma firstToken?_append {token : Token} {word rest : List Char} (h : token.Spelled word)
    (ended : token.isNumber → Number.Ended rest) :
    firstToken? (word ++ rest) = some (token, rest) := by
  cases h with
  | @mark c token hc =>
    unfold mark? at hc
    split at hc <;> cases hc <;> rfl
  | null => rfl
  | yes => rfl
  | no => rfl
  | number hp =>
    have parts := Number.parts?_append hp (ended rfl)
    obtain ⟨c, others, rfl, hc⟩ := hp.cons
    rw [List.cons_append] at parts ⊢
    rw [firstToken?_number hc, parts, Option.map_some]
  | string hp =>
    simp [firstToken?, stringPieces?_append hp]

/-- No blank is a character of numbers. -/
lemma isSpace_outside_number {c : Char} (h : isSpace c = true) :
    c.isDigit = false ∧ c ≠ '.' ∧ c ≠ 'e' ∧ c ≠ 'E' ∧ c ≠ '-' := by
  simp only [isSpace, Bool.or_eq_true, beq_iff_eq] at h
  rcases h with ((rfl | rfl) | rfl) | rfl <;> decide

/-- A token starts with no blank, and with nothing that goes on with a number unless it is one. -/
lemma Token.Spelled.cons {token : Token} {word : List Char} (h : token.Spelled word) :
    ∃ c rest, word = c :: rest ∧ isSpace c = false ∧
      (token.isNumber = false → c.isDigit = false ∧ c ≠ '.' ∧ c ≠ 'e' ∧ c ≠ 'E') := by
  cases h with
  | @mark c token hc =>
    refine ⟨c, [], rfl, ?_⟩
    unfold mark? at hc
    split at hc <;> cases hc <;> decide
  | null => exact ⟨_, _, rfl, by decide⟩
  | yes => exact ⟨_, _, rfl, by decide⟩
  | no => exact ⟨_, _, rfl, by decide⟩
  | number hp =>
    obtain ⟨c, rest, e, hc⟩ := hp.cons
    refine ⟨c, rest, e, ?_, nofun⟩
    rw [Bool.eq_false_iff]
    intro blank
    obtain ⟨digit, -, -, -, minus⟩ := isSpace_outside_number blank
    rcases hc with hc | hc
    · rw [digit] at hc
      cases hc
    · exact minus hc
  | string _ => exact ⟨_, _, rfl, by decide, fun _ => by decide⟩

/-- Blanks in front make no difference to the tokens. -/
lemma tokens_blanks {blanks : List Char} (h : ∀ c ∈ blanks, isSpace c) (text : List Char) :
    tokens (blanks ++ text) = tokens text := by
  induction blanks with
  | nil => rfl
  | cons c blanks ih =>
    rw [List.cons_append, tokens, if_pos (h c List.mem_cons_self)]
    exact ih fun d hd => h d (List.mem_cons_of_mem _ hd)

/-- A token is read as it is written, and the others behind it. -/
lemma tokens_append {token : Token} {word rest : List Char} (h : token.Spelled word)
    (ended : token.isNumber → Number.Ended rest) :
    tokens (word ++ rest) = token :: tokens rest := by
  have first := firstToken?_append h ended
  obtain ⟨c, others, rfl, visible, -⟩ := h.cons
  rw [List.cons_append] at first ⊢
  rw [tokens, if_neg (Bool.eq_false_iff.mp visible)]
  split
  · next failed => cases first.symm.trans failed
  · next found =>
    cases first.symm.trans found
    rfl

/-- No number goes on with blanks, or with another token than a number. -/
lemma Spaced.ended {toks : List Token} {text : List Char} (h : Spaced toks text)
    (next : ∀ token ∈ toks.head?, token.isNumber = false) : Number.Ended text := by
  have blank {blanks : List Char} (h : ∀ c ∈ blanks, isSpace c) : Number.Ended blanks := by
    intro c hc
    obtain ⟨digit, point, small, capital, -⟩ := isSpace_outside_number (h c (List.mem_of_mem_head? hc))
    exact ⟨digit, point, small, capital⟩
  cases h with
  | nil blanks => exact blank blanks
  | @cons blanks token word _ _ hb ht _ =>
    cases blanks with
    | nil =>
      obtain ⟨c, others, rfl, -, other⟩ := ht.cons
      rintro d ⟨⟩
      exact other (next token rfl)
    | cons b blanks =>
      rintro c ⟨⟩
      exact blank hb b rfl

/-- Tokens that are written in any way are the tokens of their text. -/
theorem tokens_of_spaced {toks : List Token} {text : List Char} (h : Spaced toks text)
    (separate : Separate toks) : tokens text = toks := by
  induction h with
  | nil blanks =>
    have none_there := tokens_blanks blanks []
    rw [List.append_nil] at none_there
    rw [none_there, tokens]
  | cons blanks ht rest ih =>
    obtain ⟨next, separate⟩ := List.isChain_cons.mp separate
    rw [tokens_blanks blanks, tokens_append ht, ih separate]
    intro number
    refine rest.ended fun token here => (next token here).resolve_left ?_
    rw [number]
    decide

end CodeClones.Json
