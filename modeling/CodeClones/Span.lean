/-!
# Positions and spans

A position is a line, counted from one, and a column, counted from zero. Positions are ordered by
line and then by column. A span is a file and the two positions between which a piece of it lies.
-/

namespace CodeClones

/-- A place in a source file. -/
structure Position where
  /-- The line, counted from one. -/
  line : UInt32
  /-- The column, counted from zero. -/
  column : UInt32
deriving DecidableEq, Repr, Inhabited

namespace Position

/-- Strictly earlier: on an earlier line, or further left on the same one. -/
protected def lt (p q : Position) : Prop :=
  p.line < q.line ∨ (p.line = q.line ∧ p.column < q.column)

/-- Not later. -/
protected def le (p q : Position) : Prop :=
  p.line < q.line ∨ (p.line = q.line ∧ p.column ≤ q.column)

instance : LT Position := ⟨Position.lt⟩

instance : LE Position := ⟨Position.le⟩

instance (p q : Position) : Decidable (p < q) :=
  inferInstanceAs (Decidable (p.line < q.line ∨ (p.line = q.line ∧ p.column < q.column)))

instance (p q : Position) : Decidable (p ≤ q) :=
  inferInstanceAs (Decidable (p.line < q.line ∨ (p.line = q.line ∧ p.column ≤ q.column)))

/-- A position as line and column with a colon between them. -/
def text (p : Position) : String :=
  toString p.line.toNat ++ ":" ++ toString p.column.toNat

/-- The one of two positions on the greater line; on one line, the second. -/
def lowerOf (p q : Position) : Position :=
  if q.line < p.line then p else q

end Position

/-- The part of a file between two positions. -/
structure Span where
  filename : String
  start : Position
  /-- Where the part ends; the last column is not part of it. -/
  stop : Position
deriving DecidableEq, Repr, Inhabited

/-- A span as file, start and end. -/
def Span.text (s : Span) : String :=
  s.filename ++ ":" ++ s.start.text ++ "-" ++ s.stop.text

end CodeClones
