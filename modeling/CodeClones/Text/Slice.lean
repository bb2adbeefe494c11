/-!
# Slices by byte offset

Concrete trees give the extent of a node in bytes of the encoded source. A slice is the text between
two such offsets; where an offset is out of order, beyond the end or inside a character there is
none, and the empty text stands in.
-/

namespace CodeClones.Text

/-- The text between two byte offsets, when both are boundaries of characters in order. -/
def slice? (text : String) (first last : Nat) : Option String :=
  let bytes := text.toUTF8
  if first ≤ last ∧ last ≤ bytes.size then String.fromUTF8? (bytes.extract first last) else none

/-- The text between two byte offsets, empty where they cut none out. -/
def slice (text : String) (first last : Nat) : String :=
  (slice? text first last).getD ""

end CodeClones.Text
