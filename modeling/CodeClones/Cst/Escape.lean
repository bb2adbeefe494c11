import CodeClones.Number.Numeral

/-!
# Escapes in string literals

`resolveEscapes` resolves the escapes of a string literal's body. An escape that cannot be resolved
becomes one replacement character, and reading goes on behind the part that was understood.
-/

namespace CodeClones.Cst

/-- The character with a given code point, if there is one. -/
def scalar? (n : Nat) : Option Char :=
  if n.isValidChar then some (Char.ofNat n) else none

/-- What stands for an escape that cannot be resolved. -/
def replacement : Char := '\uFFFD'

/-- Reads a given number of hexadecimal digits onto a value. The rest is what follows the digits
that were there. -/
def takeHex : Nat → Nat → List Char → Option Nat × List Char
  | 0, value, text => (some value, text)
  | _ + 1, _, [] => (none, [])
  | count + 1, value, c :: rest =>
    if Numeral.isDigitOf 16 c then takeHex count (value * 16 + Numeral.digitValue c) rest
    else (none, c :: rest)

/-- Reads hexadecimal digits up to a closing brace onto a value. A value of more than thirty-two
bits ends the reading behind the digit that made it too large. -/
def takeBraced : Nat → List Char → Option Nat × List Char
  | _, [] => (none, [])
  | value, c :: rest =>
    if Numeral.isDigitOf 16 c then
      if value < 0x10000000 then takeBraced (value * 16 + Numeral.digitValue c) rest else (none, rest)
    else if c = '\x7d' then (some value, rest)
    else (none, c :: rest)

/-- Reads the second half of a surrogate pair, which is an escape of its own. -/
def lowSurrogate? : List Char → Option (Nat × List Char)
  | '\\' :: 'u' :: text =>
    match takeHex 4 0 text with
    | (some low, rest) => if 0xDC00 ≤ low ∧ low < 0xE000 then some (low, rest) else none
    | (none, _) => none
  | _ => none

/-- Reads an escape by code point: a number in braces, or four digits, of which two escapes may make
a surrogate pair. -/
def takeCodePoint : List Char → Option Char × List Char
  | '\x7b' :: text =>
    let (value, rest) := takeBraced 0 text
    (value.bind scalar?, rest)
  | text =>
    match takeHex 4 0 text with
    | (none, rest) => (none, rest)
    | (some unit, rest) =>
      if 0xD800 ≤ unit ∧ unit < 0xDC00 then
        match lowSurrogate? rest with
        | some (low, rest) => (scalar? (0x10000 + (unit - 0xD800) * 0x400 + (low - 0xDC00)), rest)
        | none => (none, rest)
      else (scalar? unit, rest)

/-- Resolves the escape whose letter is given: what it stands for, and the rest of the text. -/
def resolve (letter : Char) (text : List Char) : List Char × List Char :=
  match letter with
  | 'n' => (['\n'], text)
  | 't' => (['\t'], text)
  | 'r' => (['\r'], text)
  | 'b' => (['\x08'], text)
  | 'f' => (['\x0C'], text)
  | 'v' => (['\x0B'], text)
  | '0' => (['\x00'], text)
  | 'x' =>
    let (value, rest) := takeHex 2 0 text
    ([(value.bind scalar?).getD replacement], rest)
  | 'u' =>
    let (c, rest) := takeCodePoint text
    ([c.getD replacement], rest)
  | '\r' =>
    match text with
    | '\n' :: rest => ([], rest)
    | _ => ([], text)
  | '\n' | '\u2028' | '\u2029' => ([], text)
  | other => ([other], text)

/-- Taking digits leaves no more text than there was. -/
theorem takeHex_length_le (count value : Nat) (text : List Char) :
    (takeHex count value text).2.length ≤ text.length := by
  fun_induction takeHex count value text with
  | case3 count value c rest _ ih => simp only [List.length_cons]; omega
  | _ => simp

/-- Taking digits up to a brace leaves no more text than there was. -/
theorem takeBraced_length_le (value : Nat) (text : List Char) :
    (takeBraced value text).2.length ≤ text.length := by
  fun_induction takeBraced value text with
  | case2 value c rest _ _ ih => simp only [List.length_cons]; omega
  | _ => simp

/-- The escape of a low surrogate takes some of the text. -/
theorem lowSurrogate?_length_lt {text rest : List Char} {low : Nat}
    (h : lowSurrogate? text = some (low, rest)) : rest.length < text.length := by
  unfold lowSurrogate? at h
  split at h
  · next body =>
    split at h
    · next value tail heq =>
      have := takeHex_length_le 4 0 body
      rw [heq] at this
      split at h
      · simp only [Option.some.injEq, Prod.mk.injEq] at h
        simp only [List.length_cons]
        have := h.2 ▸ this
        simp only at this
        omega
      · simp at h
    · simp at h
  · simp at h

/-- Taking a code point leaves no more text than there was. -/
theorem takeCodePoint_length_le (text : List Char) :
    (takeCodePoint text).2.length ≤ text.length := by
  unfold takeCodePoint
  split
  · next body =>
    have := takeBraced_length_le 0 body
    simp only [List.length_cons]
    omega
  · have := takeHex_length_le 4 0 text
    split
    · next heq => simpa [heq] using this
    · next heq =>
      rw [heq] at this
      split
      · split
        · next hlow =>
          have := lowSurrogate?_length_lt hlow
          simp only at *
          omega
        · simpa using this
      · simpa using this

/-- Resolving an escape never makes the rest longer. -/
theorem resolve_length_le (letter : Char) (text : List Char) :
    (resolve letter text).2.length ≤ text.length := by
  unfold resolve
  split
  case h_8 => exact takeHex_length_le 2 0 text
  case h_9 => exact takeCodePoint_length_le text
  case h_10 =>
    split
    · simp
    · exact Nat.le_refl _
  all_goals exact Nat.le_refl _

/-- The characters of a string literal's body with its escapes resolved. -/
def resolveAll : List Char → List Char
  | [] => []
  | c :: rest =>
    if c = '\\' then
      match rest with
      | [] => ['\\']
      | letter :: text => (resolve letter text).1 ++ resolveAll (resolve letter text).2
    else c :: resolveAll rest
termination_by text => text.length
decreasing_by
  · have := resolve_length_le letter text
    simp only [List.length_cons]
    omega
  · simp

/-- The body of a string literal with its escapes resolved. -/
def resolveEscapes (body : String) : String :=
  .ofList (resolveAll body.toList)

end CodeClones.Cst
