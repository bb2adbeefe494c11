import CodeClones.Cst.Escape
import CodeClones.Node.Literal

/-!
# Literals from their text

The value of a literal, given its kind and its text in the source. A numeral may have underscores, a
base in front or the letter of a big integer behind it; one that has no value is kept as written.
-/

namespace CodeClones.Cst

/-- A text without the pair of equal quotes around it. -/
def unquoted (text : List Char) : List Char :=
  match text with
  | first :: rest =>
    if (first = '"' ∨ first = '\x27') ∧ rest.getLast? = some first then rest.dropLast else text
  | [] => text

/-- The least number of more than a hundred and twenty-eight bits. -/
def wholeLimit : Nat := 0x100000000000000000000000000000000

/-- A whole number in a base, of at most a hundred and twenty-eight bits, as a double. -/
def wholeNumber? (base : Nat) (digits : List Char) : Option Double :=
  (Numeral.whole? base wholeLimit digits).map fun n => Numeral.nearestDouble false ⟨n, 0⟩

/-- Whether a numeral is octal in the old way: a zero in front and octal digits only. -/
def isOldOctal (digits : List Char) : Bool :=
  1 < digits.length && digits.head? == some '0' && digits.all (Numeral.isDigitOf 8)

/-- The value of a numeral in small letters and without underscores. -/
def numeralValue? : List Char → Option Double
  | '0' :: 'x' :: digits => wholeNumber? 16 digits
  | '0' :: 'o' :: digits => wholeNumber? 8 digits
  | '0' :: 'b' :: digits => wholeNumber? 2 digits
  | digits => if isOldOctal digits then wholeNumber? 8 digits else Numeral.double? digits

/-- The value of a numeral as written. -/
def numberLiteral (text : String) : Literal :=
  let cleaned := text.toList.filter (· != '_')
  if cleaned.getLast? = some 'n' then .bigInt (.ofList cleaned.dropLast)
  else
    match numeralValue? (cleaned.map Char.toLower) with
    | some value => .number value
    | none => .raw text

/-- The value of a string literal; `verbatim` leaves its escapes as they are. -/
def stringLiteral (verbatim : Bool) (text : String) : Literal :=
  let body := unquoted text.toList
  .string (.ofList (if verbatim then body else resolveAll body))

/-- The value of a literal of a given kind; other kinds have none. -/
def literalOf? (kind : String) (verbatim : Bool) (text : String) : Option Literal :=
  match kind with
  | "string" => some (stringLiteral verbatim text)
  | "number" => some (numberLiteral text)
  | "true" => some (.boolean true)
  | "false" => some (.boolean false)
  | "null" => some .null
  | "regex" => some (.regExp text)
  | _ => none

end CodeClones.Cst
