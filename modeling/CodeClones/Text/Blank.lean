/-!
# Blank characters

A character is blank when it has the Unicode property `White_Space`. The class has twenty-five
members: six in the seven-bit range, and the wider and narrower spaces and line ends of other
scripts.
-/

namespace CodeClones.Text

/-- The characters of Unicode's `White_Space` class. -/
def isBlank (c : Char) : Bool :=
  let n := c.toNat
  (0x09 ≤ n && n ≤ 0x0D) || n == 0x20 || n == 0x85 || n == 0xA0 || n == 0x1680 ||
    (0x2000 ≤ n && n ≤ 0x200A) || n == 0x2028 || n == 0x2029 || n == 0x202F || n == 0x205F ||
    n == 0x3000

/-- Whether a text holds nothing but blanks; the empty text does. -/
def allBlank (text : String) : Bool :=
  text.toList.all isBlank

/-- A text without the blanks at its two ends. -/
def trimBlank (text : String) : String :=
  .ofList ((text.toList.dropWhile isBlank).reverse.dropWhile isBlank).reverse

end CodeClones.Text
