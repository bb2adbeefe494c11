import CodeClones.Text.Unprintable

/-!
# Quoted texts

A text in double quotes on one line. The quote, the backslash and four controls have short escapes;
any other character with no printed form is written by its number in braces.
-/

namespace CodeClones.Text

/-- Lower-case hexadecimal digits of a number. -/
def hexDigits (n : Nat) : String :=
  .ofList (Nat.toDigits 16 n)

/-- One character of a quoted text. -/
def quoteChar (c : Char) : String :=
  match c with
  | '"' => "\\\""
  | '\\' => "\\\\"
  | '\n' => "\\n"
  | '\r' => "\\r"
  | '\t' => "\\t"
  | '\x00' => "\\0"
  | _ => if isUnprintable c then "\\u\x7b" ++ hexDigits c.toNat ++ "\x7d" else c.toString

/-- A text in double quotes. -/
def quote (text : String) : String :=
  "\"" ++ String.join (text.toList.map quoteChar) ++ "\""

end CodeClones.Text
