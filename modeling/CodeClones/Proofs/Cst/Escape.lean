import CodeClones.Cst.Escape
import CodeClones.Proofs.Number.Digits
import Mathlib.Data.List.Chain

/-!
# Escapes and what they stand for

The body of a string literal is a list of tokens, each of which says by itself how it is written and what
it stands for (`StringToken.text`, `StringToken.value`). Resolving the escapes of a body gives the values
of its tokens one after the other, `resolveEscapes_tokens`: every token takes its own characters and
leaves the rest alone (`resolveAll_token`), whatever the rest is. The one exception is a line that ends in
a carriage return alone and goes on with a line feed.

Escapes by code point are followed beyond the well-formed ones in `resolveEscapes_braced`.
-/

namespace CodeClones.Cst

open Numeral (digitValue isDigitOf ofDigits)

/-- Hexadecimal digits, in either case. -/
structure HexDigits where
  chars : List Char
  areDigits : chars.all (isDigitOf 16)

namespace HexDigits

/-- The number that the digits denote. -/
def value (h : HexDigits) : Nat :=
  ofDigits 16 h.chars

/-- The digits in braces, as an escape by code point. -/
def braced (h : HexDigits) : List Char :=
  '\\' :: 'u' :: '\x7b' :: (h.chars ++ ['\x7d'])

end HexDigits

/-- Four hexadecimal digits, as in an escape by code unit. -/
structure HexQuad extends HexDigits where
  four : chars.length = 4

/-- The escape of a code unit. -/
def HexQuad.escape (h : HexQuad) : List Char :=
  '\\' :: 'u' :: h.chars

/-- The letters for control characters. -/
def controlLetters : List (Char × Char) :=
  [('n', '\n'), ('t', '\t'), ('r', '\r'), ('b', '\x08'), ('f', '\x0C'), ('v', '\x0B'), ('0', '\x00')]

/-- The ways to end a line. -/
def lineEnds : List (List Char) :=
  [['\n'], ['\r', '\n'], ['\r'], ['\u2028'], ['\u2029']]

/-- The characters other than decimal digits that do not stand for themselves behind a backslash. -/
def escapeLetters : List Char :=
  ['n', 't', 'r', 'b', 'f', 'v', 'x', 'u', '\n', '\r', '\u2028', '\u2029']

/-- A well-formed part of a string literal's body. -/
inductive StringToken where
  | plain (c : Char) (noEscape : c ≠ '\\')
  | control (letter c : Char) (listed : (letter, c) ∈ controlLetters)
  | byte (digits : HexDigits) (two : digits.chars.length = 2)
  /-- A code unit that is a character of its own. -/
  | unit (digits : HexQuad) (whole : digits.value < 0xD800 ∨ 0xE000 ≤ digits.value)
  /-- Two code units that make a character together. -/
  | pair (high low : HexQuad) (isHigh : 0xD800 ≤ high.value ∧ high.value < 0xDC00)
    (isLow : 0xDC00 ≤ low.value ∧ low.value < 0xE000)
  | codePoint (digits : HexDigits) (nonempty : digits.chars ≠ []) (scalar : digits.value.isValidChar)
  /-- A line end that is no part of the string. -/
  | continuation (lineEnd : List Char) (listed : lineEnd ∈ lineEnds)
  /-- A character that stands for itself behind a backslash. -/
  | literal (c : Char) (noLetter : c ∉ escapeLetters) (noDigit : c.isDigit = false)

namespace StringToken

/-- How a token is written. -/
def text : StringToken → List Char
  | plain c _ => [c]
  | control letter _ _ => ['\\', letter]
  | byte digits _ => '\\' :: 'x' :: digits.chars
  | unit digits _ => digits.escape
  | pair high low _ _ => high.escape ++ low.escape
  | codePoint digits _ _ => digits.braced
  | continuation lineEnd _ => '\\' :: lineEnd
  | literal c _ _ => ['\\', c]

/-- What a token stands for. -/
def value : StringToken → List Char
  | plain c _ => [c]
  | control _ c _ => [c]
  | byte digits _ => [Char.ofNat digits.value]
  | unit digits _ => [Char.ofNat digits.value]
  | pair high low _ _ =>
    [Char.ofNat (0x10000 + (high.value - 0xD800) * 0x400 + (low.value - 0xDC00))]
  | codePoint digits _ _ => [Char.ofNat digits.value]
  | continuation _ _ => []
  | literal c _ _ => [c]

end StringToken

/-- Tokens among which no line that goes on behind a carriage return is followed by a line feed. -/
def LinesApart (tokens : List StringToken) : Prop :=
  tokens.IsChain fun a b => ¬ (a.text = ['\\', '\r'] ∧ b.text = ['\n'])

instance (tokens : List StringToken) : Decidable (LinesApart tokens) :=
  inferInstanceAs (Decidable
    (tokens.IsChain fun a b => ¬ (a.text = ['\\', '\r'] ∧ b.text = ['\n'])))

/-! ### Readers of digits -/

section Digits

variable {digits : List Char} (hex : ∀ c ∈ digits, isDigitOf 16 c)
include hex

/-- Digits, as many as are asked for, are all taken. -/
lemma takeHex_digits (value : Nat) (rest : List Char) :
    takeHex digits.length value (digits ++ rest) =
      (some (digits.foldl (fun n c => n * 16 + digitValue c) value), rest) := by
  induction digits generalizing value with
  | nil => rfl
  | cons d digits ih =>
    rw [List.length_cons, List.cons_append, takeHex, if_pos (hex d List.mem_cons_self),
      ih fun c hc => hex c (List.mem_cons_of_mem d hc), List.foldl_cons]

/-- Digits are taken as long as they denote a number of thirty-two bits. -/
lemma takeBraced_digits {value : Nat}
    (h : digits.foldl (fun n c => n * 16 + digitValue c) value < 2 ^ 32) (rest : List Char) :
    takeBraced value (digits ++ rest) =
      takeBraced (digits.foldl (fun n c => n * 16 + digitValue c) value) rest := by
  induction digits generalizing value with
  | nil => rfl
  | cons d digits ih =>
    have positive : 0 < 16 := by decide
    have bound := Numeral.le_foldl_digits positive digits (value * 16 + digitValue d)
    rw [List.foldl_cons] at h
    -- the number only grows, so there is still room for one more digit
    have room : value < 0x10000000 := by omega
    rw [List.cons_append, takeBraced, if_pos (hex d List.mem_cons_self), if_pos room,
      ih (fun c hc => hex c (List.mem_cons_of_mem d hc)) h, List.foldl_cons]

end Digits

/-- A closing brace ends the digits and is taken with them. -/
lemma takeBraced_close (value : Nat) (rest : List Char) :
    takeBraced value ('\x7d' :: rest) = (some value, rest) := by
  rw [takeBraced, if_neg (by decide), if_pos rfl]

/-- The digit that makes the number too large is the last one that is taken. -/
lemma takeBraced_reaching {value : Nat} {d : Char} (digit : isDigitOf 16 d)
    (reached : 2 ^ 32 ≤ value * 16 + digitValue d) (rest : List Char) :
    takeBraced value (d :: rest) = (none, rest) := by
  have small : digitValue d < 16 := by simpa [isDigitOf] using digit
  have full : ¬ value < 0x10000000 := by omega
  rw [takeBraced, if_pos digit, if_neg full]

/-- A number that is a code point has a character. -/
lemma scalar?_of_isValidChar {n : Nat} (h : n.isValidChar) : scalar? n = some (Char.ofNat n) :=
  if_pos h

namespace HexDigits

/-- All characters of hexadecimal digits are such digits. -/
lemma isDigit (h : HexDigits) : ∀ c ∈ h.chars, isDigitOf 16 c :=
  List.all_eq_true.mp h.areDigits

/-- Digits denote a number below the power of the base with as many places. -/
lemma value_lt (h : HexDigits) : h.value < 16 ^ h.chars.length :=
  Numeral.ofDigits_lt h.isDigit

end HexDigits

namespace HexQuad

variable (h : HexQuad) (rest : List Char)

/-- Four digits denote a number of sixteen bits. -/
lemma value_lt : h.value < 0x10000 := by
  have bound := h.toHexDigits.value_lt
  rw [h.four] at bound
  exact bound

/-- Four digits are taken where four are asked for. -/
lemma takeHex_chars : takeHex 4 0 (h.chars ++ rest) = (some h.value, rest) := by
  rw [← h.four]
  exact takeHex_digits h.isDigit 0 rest

/-- The escape of a low surrogate is taken as one. -/
lemma lowSurrogate?_escape (isLow : 0xDC00 ≤ h.value ∧ h.value < 0xE000) :
    lowSurrogate? (h.escape ++ rest) = some (h.value, rest) := by
  simp only [escape, List.cons_append, lowSurrogate?, takeHex_chars, if_pos isLow]

/-- Digits do not start with a brace. -/
lemma ne_brace (text : List Char) : h.chars ++ rest ≠ '\x7b' :: text := by
  intro brace
  have front : '\x7b' ∈ h.chars := by
    cases chars : h.chars with
    | nil => exact absurd h.four (by simp [chars])
    | cons d others =>
      rw [chars, List.cons_append, List.cons.injEq] at brace
      exact brace.1 ▸ List.mem_cons_self
  exact absurd (h.isDigit _ front) (by decide)

/-- Four digits that denote no high surrogate are a code point of their own. -/
lemma takeCodePoint_unit (whole : h.value < 0xD800 ∨ 0xDC00 ≤ h.value) :
    takeCodePoint (h.chars ++ rest) = (scalar? h.value, rest) := by
  have noHigh : ¬ (0xD800 ≤ h.value ∧ h.value < 0xDC00) := by omega
  unfold takeCodePoint
  split
  · exact absurd ‹_› (h.ne_brace rest _)
  · simp only [takeHex_chars, if_neg noHigh]

/-- A high surrogate and the escape of a low one are one code point. -/
lemma takeCodePoint_pair {low : HexQuad} (isHigh : 0xD800 ≤ h.value ∧ h.value < 0xDC00)
    (isLow : 0xDC00 ≤ low.value ∧ low.value < 0xE000) :
    takeCodePoint (h.chars ++ (low.escape ++ rest)) =
      (scalar? (0x10000 + (h.value - 0xD800) * 0x400 + (low.value - 0xDC00)), rest) := by
  unfold takeCodePoint
  split
  · exact absurd ‹_› (h.ne_brace _ _)
  · simp only [takeHex_chars, if_pos isHigh, lowSurrogate?_escape low rest isLow]

end HexQuad

/-! ### One token -/

section Steps

variable {c : Char} (rest : List Char)

/-- A character other than a backslash stands for itself. -/
lemma resolveAll_plain (h : c ≠ '\\') : resolveAll (c :: rest) = c :: resolveAll rest := by
  rw [resolveAll.eq_def]
  exact if_neg h

/-- A backslash and what is resolved behind it come first, and then the rest. -/
lemma resolveAll_of_resolve {letter : Char} {text value rest : List Char}
    (h : resolve letter text = (value, rest)) :
    resolveAll ('\\' :: letter :: text) = value ++ resolveAll rest := by
  have step : resolveAll ('\\' :: letter :: text) =
      (resolve letter text).1 ++ resolveAll (resolve letter text).2 := by
    rw [resolveAll.eq_def]
    exact if_pos rfl
  rw [step, h]

/-- The letter of a control character stands for that character. -/
lemma resolve_control {letter : Char} (h : (letter, c) ∈ controlLetters) :
    resolve letter rest = ([c], rest) := by
  simp only [controlLetters, List.mem_cons, List.not_mem_nil, or_false, Prod.mk.injEq] at h
  rcases h with ⟨rfl, rfl⟩ | ⟨rfl, rfl⟩ | ⟨rfl, rfl⟩ | ⟨rfl, rfl⟩ | ⟨rfl, rfl⟩ | ⟨rfl, rfl⟩ | ⟨rfl, rfl⟩ <;>
    rfl

/-- A character without a meaning of its own behind a backslash stands for itself. -/
lemma resolve_self (noLetter : c ∉ escapeLetters) (noZero : c ≠ '0') :
    resolve c rest = ([c], rest) := by
  unfold resolve
  split
  -- the last row is for what stands for itself, and of the others only zero is no letter
  case h_14 => rfl
  case h_7 => exact absurd rfl noZero
  all_goals exact absurd (by decide) noLetter

/-- Two digits behind an `x` stand for the character with their number. -/
lemma resolve_byte {digits : HexDigits} (two : digits.chars.length = 2) :
    resolve 'x' (digits.chars ++ rest) = ([Char.ofNat digits.value], rest) := by
  have bound := digits.value_lt
  rw [two] at bound
  have valid : digits.value.isValidChar := .inl (by omega)
  have taken : takeHex 2 0 (digits.chars ++ rest) = (some digits.value, rest) := by
    rw [← two]
    exact takeHex_digits digits.isDigit 0 rest
  simp only [resolve, taken, Option.bind_some, scalar?_of_isValidChar valid, Option.getD_some]

/-- The letter `u` stands for the code point behind it, or for one replacement character. -/
lemma resolve_codePoint (text : List Char) :
    resolve 'u' text = ([(takeCodePoint text).1.getD replacement], (takeCodePoint text).2) := rfl

/-- A code point that is valid stands for its character. -/
lemma resolve_scalar {text rest : List Char} {n : Nat}
    (taken : takeCodePoint text = (scalar? n, rest)) (valid : n.isValidChar) :
    resolve 'u' text = ([Char.ofNat n], rest) := by
  simp only [resolve_codePoint, taken, scalar?_of_isValidChar valid, Option.getD_some]

/-- Four digits that denote no surrogate stand for the character with their number. -/
lemma resolve_unit {digits : HexQuad} (whole : digits.value < 0xD800 ∨ 0xE000 ≤ digits.value) :
    resolve 'u' (digits.chars ++ rest) = ([Char.ofNat digits.value], rest) := by
  have bound := digits.value_lt
  have valid : digits.value.isValidChar := by rw [Nat.isValidChar]; omega
  have noHigh : digits.value < 0xD800 ∨ 0xDC00 ≤ digits.value := by omega
  exact resolve_scalar (digits.takeCodePoint_unit rest noHigh) valid

/-- The code points of surrogate pairs are those beyond the first plane. -/
lemma isValidChar_pair {high low n : Nat} (isHigh : 0xD800 ≤ high ∧ high < 0xDC00)
    (isLow : 0xDC00 ≤ low ∧ low < 0xE000)
    (h : n = 0x10000 + (high - 0xD800) * 0x400 + (low - 0xDC00)) : n.isValidChar := by
  rw [Nat.isValidChar]
  omega

/-- Two surrogates stand for the character that they make together. -/
lemma resolve_pair {high low : HexQuad} (isHigh : 0xD800 ≤ high.value ∧ high.value < 0xDC00)
    (isLow : 0xDC00 ≤ low.value ∧ low.value < 0xE000) :
    resolve 'u' (high.chars ++ (low.escape ++ rest)) =
      ([Char.ofNat (0x10000 + (high.value - 0xD800) * 0x400 + (low.value - 0xDC00))], rest) :=
  resolve_scalar (high.takeCodePoint_pair rest isHigh isLow) (isValidChar_pair isHigh isLow rfl)

/-- Digits in braces are taken with their braces as long as they denote a number of thirty-two
bits. -/
lemma resolve_braced {digits : HexDigits} (h : digits.value < 2 ^ 32) :
    resolve 'u' ('\x7b' :: (digits.chars ++ '\x7d' :: rest)) =
      ([(scalar? digits.value).getD replacement], rest) := by
  have taken : takeBraced 0 (digits.chars ++ '\x7d' :: rest) = (some digits.value, rest) := by
    rw [takeBraced_digits digits.isDigit h, takeBraced_close]
    rfl
  rw [resolve_codePoint]
  simp only [takeCodePoint, taken, Option.bind_some]

end Steps

namespace HexDigits

variable (h : HexDigits) (rest : List Char)

/-- An escape with braces in front of a text, character by character. -/
lemma braced_append :
    h.braced ++ rest = '\\' :: 'u' :: '\x7b' :: (h.chars ++ '\x7d' :: rest) := by
  simp [braced]

/-- Digits in braces become one character, as long as their number has no more than thirty-two bits. -/
lemma resolveAll_braced (fits : h.value < 2 ^ 32) :
    resolveAll (h.braced ++ rest) = (scalar? h.value).getD replacement :: resolveAll rest := by
  rw [h.braced_append, resolveAll_of_resolve (resolve_braced rest fits), List.singleton_append]

end HexDigits

namespace StringToken

/-- A line feed comes first only where it stands for itself. -/
lemma text_of_head {t : StringToken} {rest : List Char} (h : (t.text ++ rest).head? = some '\n') :
    t.text = ['\n'] := by
  cases t with
  | plain c noEscape =>
    obtain rfl : c = '\n' := by simpa [text] using h
    rfl
  | _ => simp [text, HexQuad.escape, HexDigits.braced] at h

end StringToken

/-- A continued line takes its own end, unless that is a carriage return before a line feed. -/
lemma resolveAll_continuation {lineEnd : List Char} (listed : lineEnd ∈ lineEnds) {rest : List Char}
    (apart : lineEnd = ['\r'] → rest.head? ≠ some '\n') :
    resolveAll ('\\' :: (lineEnd ++ rest)) = resolveAll rest := by
  simp only [lineEnds, List.mem_cons, List.not_mem_nil, or_false] at listed
  rcases listed with rfl | rfl | rfl | rfl | rfl
  · exact resolveAll_of_resolve rfl
  · exact resolveAll_of_resolve rfl
  · have alone : resolve '\r' rest = ([], rest) := by
      cases rest with
      | nil => rfl
      | cons c rest =>
        have other : c ≠ '\n' := by simpa using apart rfl
        simp [resolve, other]
    exact resolveAll_of_resolve alone
  · exact resolveAll_of_resolve rfl
  · exact resolveAll_of_resolve rfl

/-- A token takes its own characters and leaves the rest. -/
lemma resolveAll_token (t : StringToken) {rest : List Char}
    (apart : t.text = ['\\', '\r'] → rest.head? ≠ some '\n') :
    resolveAll (t.text ++ rest) = t.value ++ resolveAll rest := by
  cases t with
  | plain c noEscape => exact resolveAll_plain rest noEscape
  | control letter c listed => exact resolveAll_of_resolve (resolve_control rest listed)
  | byte digits two => exact resolveAll_of_resolve (resolve_byte rest two)
  | unit digits whole => exact resolveAll_of_resolve (resolve_unit rest whole)
  | pair high low isHigh isLow =>
    rw [StringToken.text, List.append_assoc]
    exact resolveAll_of_resolve (resolve_pair rest isHigh isLow)
  | codePoint digits nonempty scalar =>
    have fits : digits.value < 2 ^ 32 := by
      rw [Nat.isValidChar] at scalar
      omega
    rw [StringToken.text, digits.resolveAll_braced rest fits, scalar?_of_isValidChar scalar]
    rfl
  | continuation lineEnd listed =>
    exact resolveAll_continuation listed fun e => apart (congrArg _ e)
  | literal c noLetter noDigit =>
    have noZero : c ≠ '0' := by
      rintro rfl
      exact absurd noDigit (by decide)
    exact resolveAll_of_resolve (resolve_self rest noLetter noZero)

/-- Tokens one after the other become their values. -/
lemma resolveAll_tokens {tokens : List StringToken} (h : LinesApart tokens) :
    resolveAll (tokens.flatMap StringToken.text) = tokens.flatMap StringToken.value := by
  induction tokens with
  | nil => rw [List.flatMap_nil, List.flatMap_nil, resolveAll]
  | cons token tokens ih =>
    have apart : token.text = ['\\', '\r'] →
        (tokens.flatMap StringToken.text).head? ≠ some '\n' := by
      intro continued feed
      cases tokens with
      | nil => cases feed
      | cons next tokens =>
        rw [LinesApart, List.isChain_cons_cons] at h
        exact h.1 ⟨continued, StringToken.text_of_head feed⟩
    rw [List.flatMap_cons, List.flatMap_cons, resolveAll_token token apart, ih h.tail]

/-- Resolving the escapes of well-formed tokens gives their values one after the other. -/
theorem resolveEscapes_tokens (tokens : List StringToken) (h : LinesApart tokens) :
    resolveEscapes (.ofList (tokens.flatMap StringToken.text)) =
      .ofList (tokens.flatMap StringToken.value) := by
  rw [resolveEscapes, String.toList_ofList, resolveAll_tokens h]

/-- A character, a byte in capitals and small letters, a surrogate pair before a digit, a code point with
zeros in front, a line that goes on behind a carriage return, and a quote. -/
def sampleTokens : List StringToken :=
  [.plain 'a' (by decide),
    .byte ⟨['4', 'f'], rfl⟩ rfl,
    .pair ⟨⟨['D', '8', '3', 'D'], rfl⟩, rfl⟩ ⟨⟨['d', 'e', '0', '0'], rfl⟩, rfl⟩ (by decide) (by decide),
    .plain '0' (by decide),
    .codePoint ⟨"000000001F600".toList, rfl⟩ (by decide) (by decide),
    .continuation ['\r'] (by decide),
    .literal '"' (by decide) rfl,
    .plain '\n' (by decide)]

/-- The body with these tokens, one of each sort. -/
theorem resolveEscapes_tokens_sample :
    LinesApart sampleTokens ∧
      resolveEscapes "a\\x4f\\uD83D\\ude000\\u\x7b000000001F600\x7d\\\r\\\"\n" =
        "aO😀0😀\"\n" := by
  have apart : LinesApart sampleTokens := by decide
  exact ⟨apart, resolveEscapes_tokens sampleTokens apart⟩

/-! ### Digits in braces -/

/-- What digits in braces are to become: the character that they denote, or one replacement character
where they denote none. -/
def HexDigits.character (h : HexDigits) : Char :=
  if h.chars ≠ [] ∧ h.value.isValidChar then Char.ofNat h.value else '\uFFFD'

/-- A text without backslashes stands for itself. -/
lemma resolveAll_plains {text : List Char} (plain : ∀ c ∈ text, c ≠ '\\') (rest : List Char) :
    resolveAll (text ++ rest) = text ++ resolveAll rest := by
  induction text with
  | nil => rfl
  | cons c text ih =>
    rw [List.cons_append, resolveAll_plain _ (plain c List.mem_cons_self),
      ih fun d hd => plain d (List.mem_cons_of_mem c hd), List.cons_append]

namespace HexDigits

variable (h : HexDigits) (rest : List Char)

/-- Behind a number that has become too large, the digits that are left and the brace stand for
themselves. -/
lemma resolveAll_braced_reaching {front back : List Char} {d : Char}
    (split : h.chars = front ++ d :: back) (below : ofDigits 16 front < 2 ^ 32)
    (reached : 2 ^ 32 ≤ ofDigits 16 (front ++ [d])) :
    resolveAll (h.braced ++ rest) = replacement :: (back ++ '\x7d' :: resolveAll rest) := by
  have digits := h.isDigit
  rw [split, List.forall_mem_append, List.forall_mem_cons] at digits
  obtain ⟨inFront, digit, behind⟩ := digits
  rw [Numeral.ofDigits_concat] at reached
  have taken : takeBraced 0 (front ++ d :: (back ++ '\x7d' :: rest)) =
      (none, back ++ '\x7d' :: rest) := by
    rw [takeBraced_digits inFront below]
    exact takeBraced_reaching digit reached _
  have resolved : resolve 'u' ('\x7b' :: (h.chars ++ '\x7d' :: rest)) =
      ([replacement], back ++ '\x7d' :: rest) := by
    rw [resolve_codePoint, split, List.append_assoc, List.cons_append]
    simp only [takeCodePoint, taken, Option.bind_none, Option.getD_none]
  have plain : ∀ c ∈ back, c ≠ '\\' := by
    rintro _ hc rfl
    exact absurd (behind _ hc) (by decide)
  rw [h.braced_append, resolveAll_of_resolve resolved, List.singleton_append,
    resolveAll_plains plain, resolveAll_plain _ (by decide)]

/-- The character of a number, or the replacement character, is what the digits are to become. -/
lemma character_of_ne_nil (nonempty : h.chars ≠ []) :
    (scalar? h.value).getD replacement = h.character := by
  by_cases valid : h.value.isValidChar
  · rw [scalar?_of_isValidChar valid, character, if_pos ⟨nonempty, valid⟩, Option.getD_some]
  · rw [scalar?, if_neg valid, character, if_neg fun both => valid both.2, Option.getD_none]
    rfl

/-- Braces without a digit stand for the character zero. -/
lemma resolveAll_braced_nil (empty : h.chars = []) :
    resolveAll (h.braced ++ rest) = '\x00' :: resolveAll rest := by
  have zero : h.value = 0 := by
    rw [value, empty]
    rfl
  rw [h.resolveAll_braced rest (by omega), zero]
  rfl

/-- Where the number is too large, the digits behind the one that makes it so stay in the text. -/
lemma exists_resolveAll_braced (tooLarge : 2 ^ 32 ≤ h.value) :
    ∃ front d back, h.chars = front ++ d :: back ∧
      ofDigits 16 front < 2 ^ 32 ∧ 2 ^ 32 ≤ ofDigits 16 (front ++ [d]) ∧
      resolveAll (h.braced ++ rest) = '\uFFFD' :: (back ++ ['\x7d']) ++ resolveAll rest := by
  obtain ⟨front, d, back, split, below, reached⟩ := Numeral.exists_reaching (by decide) tooLarge
  refine ⟨front, d, back, split, below, reached, ?_⟩
  rw [h.resolveAll_braced_reaching rest split below reached, List.cons_append, List.append_assoc]
  rfl

/-- The digits are resolved as they are to be unless there are none or too many. -/
lemma resolveAll_braced_iff :
    resolveAll (h.braced ++ rest) = h.character :: resolveAll rest ↔
      h.chars ≠ [] ∧ h.value < 2 ^ 32 := by
  constructor
  · intro same
    constructor
    · intro empty
      rw [h.resolveAll_braced_nil rest empty, List.cons.injEq, character,
        if_neg fun both => both.1 empty] at same
      exact absurd same.1 (by decide)
    · refine Nat.not_le.mp fun tooLarge => ?_
      obtain ⟨front, d, back, -, -, -, resolved⟩ := h.exists_resolveAll_braced rest tooLarge
      have lengths := congrArg List.length (resolved.symm.trans same)
      simp only [List.length_append, List.length_cons, List.length_nil] at lengths
      omega
  · rintro ⟨nonempty, fits⟩
    rw [h.resolveAll_braced rest fits, h.character_of_ne_nil nonempty]

end HexDigits

/-- Resolving a whole text means resolving its characters. -/
lemma resolveEscapes_append_iff {text value : List Char} {rest : String} :
    resolveEscapes (.ofList text ++ rest) = .ofList value ++ resolveEscapes rest ↔
      resolveAll (text ++ rest.toList) = value ++ resolveAll rest.toList := by
  rw [resolveEscapes, resolveEscapes, ← String.toList_inj]
  simp only [String.toList_append, String.toList_ofList]

/-- Digits in braces become what they are to become exactly when there is a digit and the number has
thirty-two bits at most. Braces without a digit become the character zero. Where the number becomes too
large, the replacement character stands for the escape up to the digit that makes it so, and what is left
of the escape stays as it is written. -/
theorem resolveEscapes_braced (h : HexDigits) (rest : String) :
    (resolveEscapes (.ofList h.braced ++ rest) = .ofList [h.character] ++ resolveEscapes rest ↔
      h.chars ≠ [] ∧ h.value < 2 ^ 32) ∧
    (h.chars = [] →
      resolveEscapes (.ofList h.braced ++ rest) = .ofList ['\x00'] ++ resolveEscapes rest) ∧
    (2 ^ 32 ≤ h.value →
      ∃ front d back, h.chars = front ++ d :: back ∧
        ofDigits 16 front < 2 ^ 32 ∧ 2 ^ 32 ≤ ofDigits 16 (front ++ [d]) ∧
        resolveEscapes (.ofList h.braced ++ rest) =
          .ofList ('\uFFFD' :: (back ++ ['\x7d'])) ++ resolveEscapes rest) := by
  simp only [resolveEscapes_append_iff, List.singleton_append]
  exact ⟨h.resolveAll_braced_iff rest.toList, h.resolveAll_braced_nil rest.toList,
    h.exists_resolveAll_braced rest.toList⟩

/-- A number beyond the last character becomes one replacement character. -/
theorem resolveEscapes_braced_beyond :
    resolveEscapes "\\u\x7b00110000\x7da" = "\uFFFD" ++ resolveEscapes "a" :=
  (resolveEscapes_braced ⟨"00110000".toList, rfl⟩ "a").1.mpr ⟨by decide, by decide⟩

/-- A number of thirty-three bits leaves its brace behind, and braces without a digit do not become a
replacement character. -/
theorem resolveEscapes_braced_astray :
    let large : HexDigits := ⟨"100000000".toList, rfl⟩
    let empty : HexDigits := ⟨[], rfl⟩
    (resolveEscapes (.ofList large.braced ++ "") = "\uFFFD\x7d" ∧
      .ofList [large.character] ++ resolveEscapes "" = "\uFFFD") ∧
    (resolveEscapes (.ofList empty.braced ++ "") = "\x00" ∧
      .ofList [empty.character] ++ resolveEscapes "" = "\uFFFD") := by
  decide +kernel

end CodeClones.Cst
