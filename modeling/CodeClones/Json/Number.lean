import CodeClones.Number.Numeral

/-!
# Numbers in JSON text

A number without point and exponent is whole as long as it fits sixty-four bits. Any other number
becomes a double: the digits that fit sixty-four bits are rounded, and the result is multiplied or
divided by a power of ten, rounding again. A number beyond the largest double has no value.
-/

namespace CodeClones.Json

/-- The value of a number. -/
inductive Number where
  /-- A whole number of sixty-four bits. -/
  | whole (n : Int)
  | float (x : Double)
  /-- A number beyond the largest double. -/
  | beyond
deriving DecidableEq, Repr, Inhabited

namespace Number

/-- The parts of a number as written. -/
structure Parts where
  /-- Whether a minus sign stands in front. -/
  negative : Bool
  whole : List Char
  /-- The digits after the point; none when there is no point. -/
  fraction : List Char
  /-- The sign and the digits of the exponent. -/
  exponent : Option (Bool × List Char)
deriving DecidableEq, Repr

/-- Digits with at least one of them, and what follows. -/
def digitRun? (text : List Char) : Option (List Char × List Char) :=
  match text.takeWhile Char.isDigit with
  | [] => none
  | digits => some (digits, text.dropWhile Char.isDigit)

/-- The digits before the point. A zero in front of another digit is not allowed. -/
def wholePart? (text : List Char) : Option (List Char × List Char) := do
  let (digits, rest) ← digitRun? text
  if digits.head? = some '0' ∧ 1 < digits.length then none else some (digits, rest)

/-- The digits after a point, if there is a point. -/
def fractionPart? : List Char → Option (List Char × List Char)
  | '.' :: text => digitRun? text
  | text => some ([], text)

/-- The exponent, if there is a mark of one. -/
def exponentPart? : List Char → Option (Option (Bool × List Char) × List Char)
  | [] => some (none, [])
  | mark :: text =>
    if mark = 'e' ∨ mark = 'E' then
      let signed := Numeral.splitSign text
      (digitRun? signed.2).map fun (digits, rest) => (some (signed.1, digits), rest)
    else some (none, mark :: text)

/-- The parts of a number whose sign has been read, and what follows. -/
def unsignedParts? (negative : Bool) (text : List Char) : Option (Parts × List Char) :=
  (wholePart? text).bind fun (digits, text) =>
    (fractionPart? text).bind fun (fraction, text) =>
      (exponentPart? text).map fun (exponent, text) =>
        (⟨negative, digits, fraction, exponent⟩, text)

/-- The parts of the number at the front of a text, and what follows. -/
def parts? : List Char → Option (Parts × List Char)
  | '-' :: text => unsignedParts? true text
  | text => unsignedParts? false text

/-- Appends digits to a value up to the first that would take it beyond sixty-four bits. The second
number counts the digits appended. -/
def absorb (value : Nat) : List Char → Nat × Nat
  | [] => (value, 0)
  | c :: rest =>
    let next := value * 10 + Numeral.digitValue c
    if next < 0x10000000000000000 then
      let (final, count) := absorb next rest
      (final, count + 1)
    else (value, 0)

/-- A power of ten as a double. -/
def powerOfTen (n : Nat) : Double :=
  .nearest false (Nat.pow 10 n) 1

/-- Multiplies or divides a double by a power of ten; none when the result is too large. -/
def scale (x : Double) (power : Int) : Option Double :=
  if x.isZero then some x
  else if 308 < power then none
  else if 0 ≤ power then
    let y := x.mul (powerOfTen power.toNat)
    if y.isInfinite then none else some y
  else if -308 ≤ power then some (x.div (powerOfTen (-power).toNat))
  else scale (x.div (powerOfTen 308)) (power + 308)
termination_by power.natAbs
decreasing_by omega

/-- The greatest exponent that is told from any larger one. -/
def largestExponent : Nat := 0x7FFFFFFF

/-- The value of a number that is not whole, given the digits that fit and the power of ten they
have before the exponent counts. -/
def floatValue (negative : Bool) (digits : Nat) (power : Int) (exponent : Option (Bool × List Char)) :
    Number :=
  let scaled (power : Int) : Number :=
    match scale (.nearest false digits 1) power with
    | some x => float (if negative then x.neg else x)
    | none => beyond
  match exponent with
  | none => scaled power
  | some (downward, exponentDigits) =>
    let e := Numeral.ofDigits 10 exponentDigits
    if largestExponent < e then
      if digits ≠ 0 ∧ !downward then beyond else float (.zero negative)
    else scaled (if downward then power - e else power + e)

/-- The value of a number as written. -/
def Parts.value (p : Parts) : Number :=
  let (digits, taken) := absorb 0 p.whole
  if p.fraction = [] ∧ p.exponent = none ∧ taken = p.whole.length then
    if !p.negative then .whole digits
    else if digits = 0 ∨ 0x8000000000000000 < digits then .float (Double.nearest false digits 1).neg
    else .whole (-(digits : Int))
  else
    let (digits, places) := absorb digits p.fraction
    floatValue p.negative digits ((p.whole.length - taken : Nat) - (places : Int)) p.exponent

end Number

end CodeClones.Json
