/-!
# Double-precision numbers

A double is its sixty-four bits: a sign, eleven bits of exponent and fifty-two of fraction. All
operations are exact arithmetic on naturals. `Double.nearest` rounds a quotient of naturals to the
nearest double, a half going to the even neighbour; reading a decimal and multiplying or dividing
two doubles are that function at different quotients.
-/

namespace CodeClones

/-- A double-precision number, by its bits. -/
structure Double where
  /-- The sign, exponent and fraction, from the top. -/
  bits : UInt64
deriving DecidableEq, Repr, Inhabited

namespace Double

/-- The value of the sign bit. -/
def signBit : Nat := 0x8000000000000000

/-- The value of the bit above the fraction, which is not written in normal numbers. -/
def hiddenBit : Nat := 0x10000000000000

/-- The bits of infinity, all ones in the exponent and zeros in the fraction. -/
def infinityBits : Nat := 0x7FF0000000000000

/-- Whether the sign bit is set. -/
def negative (x : Double) : Bool :=
  signBit ≤ x.bits.toNat

/-- The eleven bits of the exponent. -/
def exponentField (x : Double) : Nat :=
  x.bits.toNat / hiddenBit % 2048

/-- The fifty-two bits of the fraction. -/
def fraction (x : Double) : Nat :=
  x.bits.toNat % hiddenBit

/-- Whether the bits stand for no number. -/
def isNaN (x : Double) : Bool :=
  x.exponentField == 2047 && x.fraction != 0

/-- Whether the bits stand for an infinity. -/
def isInfinite (x : Double) : Bool :=
  x.exponentField == 2047 && x.fraction == 0

/-- Whether the bits stand for zero, of either sign. -/
def isZero (x : Double) : Bool :=
  x.exponentField == 0 && x.fraction == 0

/-- Equality of numbers: the two zeros are equal, and what is no number differs from everything. -/
def same (x y : Double) : Bool :=
  !x.isNaN && !y.isNaN && (x.bits == y.bits || (x.isZero && y.isZero))

/-- The double with a given sign and the other sixty-three bits as a number. -/
def ofMagnitude (negative : Bool) (magnitude : Nat) : Double :=
  ⟨.ofNat ((if negative then signBit else 0) + magnitude)⟩

/-- Zero of either sign. -/
def zero (negative : Bool) : Double :=
  ofMagnitude negative 0

/-- Infinity of either sign. -/
def infinity (negative : Bool) : Double :=
  ofMagnitude negative infinityBits

/-- What is no number, with either sign: all ones in the exponent and one at the top of the
fraction. -/
def nan (negative : Bool) : Double :=
  ofMagnitude negative (infinityBits + hiddenBit / 2)

/-- The integer `m` of a finite double `m * 2 ^ q`. -/
def significand (x : Double) : Nat :=
  if x.exponentField = 0 then x.fraction else hiddenBit + x.fraction

/-- The exponent `q` of a finite double `m * 2 ^ q`. -/
def exponent (x : Double) : Int :=
  if x.exponentField = 0 then -1074 else (x.exponentField : Int) - 1075

/-- A quotient rounded to the nearest integer, a half going to the even neighbour. -/
def roundQuotient (num den : Nat) : Nat :=
  let whole := num / den
  let rest := 2 * (num % den)
  if rest < den then whole
  else if den < rest then whole + 1
  else whole + whole % 2

/-- The exponent of the leading binary digit of a positive quotient. -/
def leadingExponent (num den : Nat) : Int :=
  let guess : Int := (num.log2 : Int) - den.log2
  if den * Nat.pow 2 guess.toNat ≤ num * Nat.pow 2 (-guess).toNat then guess else guess - 1

/-- The double nearest to a quotient of naturals, infinite when the quotient is too large. -/
def nearest (negative : Bool) (num den : Nat) : Double :=
  if num = 0 then zero negative
  else
    let q := max (-1074) (leadingExponent num den - 52)
    let m := roundQuotient (num * Nat.pow 2 (-q).toNat) (den * Nat.pow 2 q.toNat)
    let magnitude := (q + 1074).toNat * hiddenBit + m
    if magnitude < infinityBits then ofMagnitude negative magnitude else infinity negative

/-- The numerator of a finite double's magnitude. -/
def numerator (x : Double) : Nat :=
  x.significand * Nat.pow 2 x.exponent.toNat

/-- The denominator of a finite double's magnitude, a power of two. -/
def denominator (x : Double) : Nat :=
  Nat.pow 2 (-x.exponent).toNat

/-- The product of two finite doubles, rounded once. -/
def mul (x y : Double) : Double :=
  nearest (x.negative != y.negative) (x.numerator * y.numerator) (x.denominator * y.denominator)

/-- The quotient of two finite doubles, rounded once; the divisor is not zero. -/
def div (x y : Double) : Double :=
  nearest (x.negative != y.negative) (x.numerator * y.denominator) (x.denominator * y.numerator)

/-- The double with the other sign. -/
def neg (x : Double) : Double :=
  ofMagnitude (!x.negative) (x.bits.toNat % signBit)

end Double

end CodeClones
