import CodeClones.Number.Double

/-!
# Shortest decimals

The decimal with the fewest digits that reads back as a given double, and the layouts in which it
is written. A finite double is itself a decimal, and so are the ends of the interval of numbers that
round to it; all three are brought to one power of ten, and the search goes through the grids of
one digit, two digits and so on. The finest grid holds the double itself, so the search ends.
-/

namespace CodeClones

/-- Which of two equally near decimals is taken. -/
inductive Tie where
  | up
  /-- The one with an even last digit. -/
  | even
deriving DecidableEq, Repr

/-- The number `digits * 10 ^ exponent`. -/
structure Decimal where
  /-- The digits, as a natural. -/
  digits : Nat
  /-- The power of ten of the last digit. -/
  exponent : Int
deriving DecidableEq, Repr

namespace Decimal

/-- How many decimal digits a natural has. -/
def width (n : Nat) : Nat :=
  (Nat.toDigits 10 n).length

/-- Numbers that read back as one double, over a common unit: the double is `value` units, and the
open or closed interval from `low` to `high` rounds to it. -/
structure Interval where
  low : Nat
  value : Nat
  high : Nat
  closed : Bool
  /-- The unit is this power of ten. -/
  unit : Int
deriving Repr

/-- The interval of numbers that round to a finite double other than zero. Below a power of two the
neighbour is half as far away as above it. -/
def Interval.ofDouble (x : Double) : Interval :=
  let m := x.significand
  let below := if m = Double.hiddenBit ∧ 1 < x.exponentField then 1 else 2
  let q := x.exponent - 2
  let scale := if 0 ≤ q then Nat.pow 2 q.toNat else Nat.pow 5 (-q).toNat
  { low := (4 * m - below) * scale
    value := 4 * m * scale
    high := (4 * m + 2) * scale
    closed := m % 2 == 0
    unit := min q 0 }

/-- Whether a number of units rounds to the double. -/
def Interval.has (i : Interval) (n : Nat) : Bool :=
  if i.closed then i.low ≤ n && n ≤ i.high else i.low < n && n < i.high

/-- The digits on the grid of a given step that round to the double: of the two neighbours of its
value, the nearer one that does. -/
def Interval.onGrid? (i : Interval) (tie : Tie) (step : Nat) : Option Nat :=
  let down := i.value / step
  let rest := 2 * (i.value % step)
  let upFirst := step < rest || (rest == step && (tie == .up || down % 2 == 1))
  let candidates := if upFirst then [down + 1, down] else [down, down + 1]
  candidates.find? fun d => i.has (d * step)

/-- The decimal on the coarsest of the grids `10 ^ n`, `10 ^ (n - 1)`, …, `1` that has one. -/
def Interval.coarsest (i : Interval) (tie : Tie) : Nat → Decimal
  | 0 => ⟨i.value, i.unit⟩
  | n + 1 =>
    match i.onGrid? tie (Nat.pow 10 (n + 1)) with
    | some d => ⟨d, i.unit + (n + 1 : Nat)⟩
    | none => i.coarsest tie n

/-- Moves the zeros at the end of the digits into the exponent, at most `fuel` of them. -/
def strip (fuel : Nat) (d : Decimal) : Decimal :=
  match fuel with
  | 0 => d
  | fuel + 1 =>
    if d.digits % 10 = 0 ∧ d.digits ≠ 0 then strip fuel ⟨d.digits / 10, d.exponent + 1⟩ else d

/-- The shortest decimal that reads back as a finite double. -/
def shortest (tie : Tie) (x : Double) : Decimal :=
  if x.isZero then ⟨0, 0⟩
  else
    let i := Interval.ofDouble x
    let d := i.coarsest tie (width i.value)
    strip (width d.digits) d

end Decimal

/-- How doubles are written. -/
structure DecimalStyle where
  /-- The choice between two equally near decimals. -/
  tie : Tie
  /-- Whether a number whose leading digit has this power of ten is written without exponent. -/
  positional : Int → Bool
  /-- What follows a whole number written without exponent. -/
  wholeEnding : String

namespace DecimalStyle

/-- A number of zeros. -/
def zeros (n : Nat) : String :=
  .ofList (List.replicate n '0')

/-- A decimal without exponent. -/
def writePositional (style : DecimalStyle) (d : Decimal) : String :=
  let digits := Nat.toDigits 10 d.digits
  if 0 ≤ d.exponent then .ofList digits ++ zeros d.exponent.toNat ++ style.wholeEnding
  else
    let places := (-d.exponent).toNat
    if digits.length ≤ places then "0." ++ zeros (places - digits.length) ++ .ofList digits
    else
      .ofList (digits.take (digits.length - places)) ++ "." ++
        .ofList (digits.drop (digits.length - places))

/-- A decimal with one digit before the point and a signed exponent. -/
def writeScientific (d : Decimal) : String :=
  let digits := Nat.toDigits 10 d.digits
  let power := d.exponent + (digits.length - 1 : Nat)
  let mantissa : List Char :=
    match digits with
    | first :: second :: rest => first :: '.' :: second :: rest
    | few => few
  .ofList (mantissa ++ ['e', if power < 0 then '-' else '+'] ++ Nat.toDigits 10 power.natAbs)

/-- A double in the given style. -/
def write (style : DecimalStyle) (x : Double) : String :=
  if x.isNaN then "NaN"
  else
    let sign := if x.negative then "-" else ""
    if x.isInfinite then sign ++ "inf"
    else
      let d := Decimal.shortest style.tie x
      let power := d.exponent + (Decimal.width d.digits - 1 : Nat)
      sign ++ (if style.positional power then style.writePositional d else writeScientific d)

end DecimalStyle

end CodeClones
