/-!
# Writing JSON

The values that are written, and their text. The text has no blanks between tokens, members keep
their order, and in strings the quote, the backslash and the controls are escaped, with a letter
where there is one.
-/

namespace CodeClones.Json

/-- A value to be written. -/
inductive Value where
  | number (n : Nat)
  | string (text : String)
  | array (items : List Value)
  | object (members : List (String × Value))
deriving Repr, Inhabited

/-- A hexadecimal digit in small letters. -/
def hexDigit (n : Nat) : Char :=
  if n < 10 then Char.ofNat ('0'.toNat + n) else Char.ofNat ('a'.toNat + (n - 10))

/-- One character of a string as written. -/
def escapeChar (c : Char) : List Char :=
  match c with
  | '"' => ['\\', '"']
  | '\\' => ['\\', '\\']
  | '\x08' => ['\\', 'b']
  | '\x0C' => ['\\', 'f']
  | '\n' => ['\\', 'n']
  | '\r' => ['\\', 'r']
  | '\t' => ['\\', 't']
  | c =>
    if c.toNat < 0x20 then
      ['\\', 'u', '0', '0', hexDigit (c.toNat / 16), hexDigit (c.toNat % 16)]
    else [c]

/-- A string as written, quotes included. -/
def stringChars (text : String) : List Char :=
  '"' :: text.toList.flatMap escapeChar ++ ['"']

mutual

/-- The text of a value. -/
def Value.chars : Value → List Char
  | .number n => Nat.toDigits 10 n
  | .string text => stringChars text
  | .array items => '[' :: itemsChars items ++ [']']
  | .object members => '\x7b' :: membersChars members ++ ['\x7d']

/-- The text of an array's items, with commas between them. -/
def itemsChars : List Value → List Char
  | [] => []
  | [item] => item.chars
  | item :: rest => item.chars ++ ',' :: itemsChars rest

/-- The text of an object's members, with commas between them. -/
def membersChars : List (String × Value) → List Char
  | [] => []
  | [(key, value)] => stringChars key ++ ':' :: value.chars
  | (key, value) :: rest => stringChars key ++ ':' :: value.chars ++ ',' :: membersChars rest

end

/-- The text of a value. -/
def Value.text (v : Value) : String :=
  .ofList v.chars

/-- The text of an object's members without the braces around them. -/
def membersText (members : List (String × Value)) : String :=
  .ofList (membersChars members)

end CodeClones.Json
