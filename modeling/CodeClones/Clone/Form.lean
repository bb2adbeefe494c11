import CodeClones.Clone.Basic
import CodeClones.Json.Decode
import CodeClones.Json.Value

/-!
# The JSON form of clones

Positions, spans, occurrences and clones as JSON. All fields are written in order, except that the
lines of an occurrence are left out while there are none; reading takes an absent or null `lines`
for none.
-/

namespace CodeClones

open Json (Reading Value Problem Shape need)

namespace Position

/-- The JSON form of a position. -/
def form (p : Position) : Value :=
  .object [("line", .number p.line.toNat), ("column", .number p.column.toNat)]

/-- A position of which some fields may be missing. -/
structure Draft where
  line : Option UInt32 := none
  column : Option UInt32 := none

/-- The fields of a position. -/
def shape : Shape Draft Position where
  name := "Position"
  fields := [
    { name := "line", required := true, read := Reading.toUInt32
      get := (·.line), set := fun d n => { d with line := some n } },
    { name := "column", required := true, read := Reading.toUInt32
      get := (·.column), set := fun d n => { d with column := some n } }]
  blank := {}
  build := fun d => do return ⟨← need "line" d.line, ← need "column" d.column⟩

/-- The position that a value stands for. -/
def ofReading (r : Reading) : Except Problem Position :=
  shape.decode r

end Position

namespace Span

/-- The JSON form of a span. -/
def form (s : Span) : Value :=
  .object [("filename", .string s.filename), ("start", s.start.form), ("end", s.stop.form)]

/-- A span of which some fields may be missing. -/
structure Draft where
  filename : Option String := none
  start : Option Position := none
  stop : Option Position := none

/-- The fields of a span. -/
def shape : Shape Draft Span where
  name := "SourceLocation"
  fields := [
    { name := "filename", required := true, read := Reading.toText
      get := (·.filename), set := fun d s => { d with filename := some s } },
    { name := "start", required := true, read := Position.ofReading
      get := (·.start), set := fun d p => { d with start := some p } },
    { name := "end", required := true, read := Position.ofReading
      get := (·.stop), set := fun d p => { d with stop := some p } }]
  blank := {}
  build := fun d => do
    return ⟨← need "filename" d.filename, ← need "start" d.start, ← need "end" d.stop⟩

/-- The span that a value stands for. -/
def ofReading (r : Reading) : Except Problem Span :=
  shape.decode r

end Span

namespace Occurrence

/-- The JSON form of an occurrence. -/
def form (o : Occurrence) : Value :=
  .object (
    [("filename", .string o.filename), ("start", o.start.form), ("end", o.stop.form)] ++
      o.lines.toList.map fun text => ("lines", .string text))

/-- An occurrence of which some fields may be missing. -/
structure Draft where
  filename : Option String := none
  start : Option Position := none
  stop : Option Position := none
  /-- The lines, where a null that was read differs from nothing read. -/
  lines : Option (Option String) := none

/-- The fields of an occurrence. -/
def shape : Shape Draft Occurrence where
  name := "Instance"
  fields := [
    { name := "filename", required := true, read := Reading.toText
      get := (·.filename), set := fun d s => { d with filename := some s } },
    { name := "start", required := true, read := Position.ofReading
      get := (·.start), set := fun d p => { d with start := some p } },
    { name := "end", required := true, read := Position.ofReading
      get := (·.stop), set := fun d p => { d with stop := some p } },
    { name := "lines", required := false, read := Reading.toOptionalText
      get := (·.lines), set := fun d s => { d with lines := some s } }]
  blank := {}
  build := fun d => do
    return ⟨← need "filename" d.filename, ← need "start" d.start, ← need "end" d.stop,
      d.lines.join⟩

/-- The occurrence that a value stands for. -/
def ofReading (r : Reading) : Except Problem Occurrence :=
  shape.decode r

end Occurrence

namespace Clone

/-- The JSON form of a clone. -/
def form (c : Clone) : Value :=
  .object [("hash", .string c.hash), ("instances", .array (c.occurrences.map Occurrence.form))]

/-- A clone of which some fields may be missing. -/
structure Draft where
  hash : Option String := none
  occurrences : Option (List Occurrence) := none

/-- The fields of a clone. -/
def shape : Shape Draft Clone where
  name := "Match"
  fields := [
    { name := "hash", required := true, read := Reading.toText
      get := (·.hash), set := fun d s => { d with hash := some s } },
    { name := "instances", required := true, read := Reading.toList Occurrence.ofReading
      get := (·.occurrences), set := fun d os => { d with occurrences := some os } }]
  blank := {}
  build := fun d => do return ⟨← need "hash" d.hash, ← need "instances" d.occurrences⟩

/-- The clone that a value stands for. -/
def ofReading (r : Reading) : Except Problem Clone :=
  shape.decode r

end Clone

end CodeClones
