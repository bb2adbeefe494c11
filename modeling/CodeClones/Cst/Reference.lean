import CodeClones.Cst.Escape

/-!
# Character references

Markup text may name a character between an ampersand and a semicolon, by a word or by a decimal or
hexadecimal number. A reference that names no character is left as it is written.
-/

namespace CodeClones.Cst

/-- The characters that have a word. -/
def namedCharacters : List (String × Char) :=
  [("amp", '&'), ("lt", '<'), ("gt", '>'), ("quot", '"'), ("apos", '\x27'), ("nbsp", '\xA0'),
    ("copy", '\xA9'), ("reg", '\xAE'), ("trade", '\u2122'), ("hellip", '\u2026'),
    ("mdash", '\u2014'), ("ndash", '\u2013'), ("lsquo", '\u2018'), ("rsquo", '\u2019'),
    ("ldquo", '\u201C'), ("rdquo", '\u201D'), ("laquo", '\xAB'), ("raquo", '\xBB'),
    ("middot", '\xB7'), ("bull", '\u2022'), ("times", '\xD7'), ("divide", '\xF7'), ("deg", '\xB0'),
    ("euro", '\u20AC'), ("pound", '\xA3'), ("yen", '\xA5'), ("cent", '\xA2'), ("sect", '\xA7'),
    ("para", '\xB6')]

/-- The body of a reference: what stands between the ampersand and the semicolon. -/
def referenceBody? : List Char → Option (List Char)
  | '&' :: rest => if rest.getLast? = some ';' then some rest.dropLast else none
  | _ => none

/-- The least number of more than thirty-two bits. -/
def codeLimit : Nat := 0x100000000

/-- The character that the body of a reference names. -/
def referenced? : List Char → Option Char
  | '#' :: 'x' :: digits => (Numeral.whole? 16 codeLimit digits).bind scalar?
  | '#' :: 'X' :: digits => (Numeral.whole? 16 codeLimit digits).bind scalar?
  | '#' :: digits => (Numeral.whole? 10 codeLimit digits).bind scalar?
  | name => namedCharacters.lookup (.ofList name)

/-- The character that a reference names, or the reference as written. -/
def decodeReference (raw : String) : String :=
  match (referenceBody? raw.toList).bind referenced? with
  | some c => c.toString
  | none => raw

end CodeClones.Cst
