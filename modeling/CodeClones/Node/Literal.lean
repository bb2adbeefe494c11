import CodeClones.Number.Shortest
import CodeClones.Text.Quoted

/-!
# Literal values

The value that a literal stands for. Two values are equal when they are of one sort and agree;
numbers agree as numbers do, so a value that is no number differs from itself.
-/

namespace CodeClones

/-- The value of a literal. -/
inductive Literal where
  /-- A text, with its escapes resolved. -/
  | string (text : String)
  | number (value : Double)
  | boolean (flag : Bool)
  | null
  /-- A regular expression, as written. -/
  | regExp (text : String)
  /-- A big integer, as written without the letter at its end. -/
  | bigInt (digits : String)
  /-- A numeral that has no value. -/
  | raw (text : String)
deriving DecidableEq, Repr, Inhabited

namespace Literal

/-- Numbers in a literal's text never have an exponent, whole ones have no point, and of two equally
near decimals the larger one is taken. -/
def numberStyle : DecimalStyle where
  tie := .up
  positional := fun _ => true
  wholeEnding := ""

/-- The text shown for a value. -/
def text : Literal → String
  | string text => Text.quote text
  | number value => numberStyle.write value
  | boolean flag => if flag then "true" else "false"
  | null => "null"
  | regExp text | raw text => text
  | bigInt digits => digits ++ "n"

/-- The text of a string value. -/
def string? : Literal → Option String
  | string text => some text
  | _ => none

/-- Equality of values. -/
def same : Literal → Literal → Bool
  | string s, string t => s == t
  | number x, number y => x.same y
  | boolean a, boolean b => a == b
  | null, null => true
  | regExp s, regExp t => s == t
  | bigInt s, bigInt t => s == t
  | raw s, raw t => s == t
  | _, _ => false

/-- Equality of values that may be absent. -/
def sameOption : Option Literal → Option Literal → Bool
  | none, none => true
  | some v, some w => v.same w
  | _, _ => false

end Literal

end CodeClones
