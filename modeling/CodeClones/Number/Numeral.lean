import CodeClones.Number.Shortest

/-!
# Numerals

Reading numbers from text: whole numbers in a base, which may carry one plus sign, and decimals
with point and exponent, which are rounded once to the nearest double.
-/

namespace CodeClones

namespace Numeral

/-- The value of a digit or letter in bases up to thirty-six. -/
def digitValue (c : Char) : Nat :=
  if '0' ≤ c ∧ c ≤ '9' then c.toNat - '0'.toNat
  else if 'a' ≤ c ∧ c ≤ 'z' then c.toNat - 'a'.toNat + 10
  else if 'A' ≤ c ∧ c ≤ 'Z' then c.toNat - 'A'.toNat + 10
  else 36

/-- Whether a character is a digit of the base. -/
def isDigitOf (base : Nat) (c : Char) : Bool :=
  digitValue c < base

/-- The number that a list of digits stands for. -/
def ofDigits (base : Nat) (digits : List Char) : Nat :=
  digits.foldl (fun n c => n * base + digitValue c) 0

/-- The number that a text of digits stands for, when it has one or more. -/
def digits? (base : Nat) (text : List Char) : Option Nat :=
  if text ≠ [] ∧ text.all (isDigitOf base) then some (ofDigits base text) else none

/-- A whole number below a limit, with one plus sign allowed in front. -/
def whole? (base limit : Nat) (text : List Char) : Option Nat :=
  let body := match text with
    | '+' :: rest => rest
    | _ => text
  (digits? base body).filter (· < limit)

/-- A sign in front of a text, and the rest. -/
def splitSign : List Char → Bool × List Char
  | '-' :: rest => (true, rest)
  | '+' :: rest => (false, rest)
  | text => (false, text)

/-- The exponent at the end of a decimal: nothing, or a mark, an optional sign and digits. -/
def exponent? : List Char → Option Int
  | [] => some 0
  | mark :: rest =>
    if mark = 'e' ∨ mark = 'E' then
      let (negative, digits) := splitSign rest
      (digits? 10 digits).map fun n => if negative then -(n : Int) else n
    else none

/-- A decimal without sign: digits with at most one point among or beside them, and an exponent. -/
def decimal? (text : List Char) : Option Decimal :=
  let whole := text.takeWhile Char.isDigit
  let (part, rest) := match text.dropWhile Char.isDigit with
    | '.' :: rest => (rest.takeWhile Char.isDigit, rest.dropWhile Char.isDigit)
    | rest => ([], rest)
  if whole = [] ∧ part = [] then none
  else (exponent? rest).map fun e => ⟨ofDigits 10 (whole ++ part), e - (part.length : Nat)⟩

/-- The double nearest to a decimal. Decimals far outside the range of doubles are settled by the
place of their leading digit, without computing the power of ten. -/
def nearestDouble (negative : Bool) (d : Decimal) : Double :=
  let top := d.exponent + (Decimal.width d.digits : Nat)
  if d.digits = 0 ∨ top < -400 then .zero negative
  else if 400 < top then .infinity negative
  else .nearest negative (d.digits * Nat.pow 10 d.exponent.toNat) (Nat.pow 10 (-d.exponent).toNat)

/-- The words that stand for values beyond the numbers, in any case of letters. -/
def word? (negative : Bool) (text : List Char) : Option Double :=
  let word := String.ofList (text.map Char.toLower)
  if word = "inf" ∨ word = "infinity" then some (.infinity negative)
  else if word = "nan" then some (.nan negative)
  else none

/-- A double: an optional sign, then a decimal or a word. -/
def double? (text : List Char) : Option Double :=
  let (negative, body) := splitSign text
  match word? negative body with
  | some value => some value
  | none => (decimal? body).map (nearestDouble negative)

end Numeral

end CodeClones
