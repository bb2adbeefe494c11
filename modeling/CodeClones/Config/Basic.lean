import CodeClones.Clone.Basic
import CodeClones.Json.Decode
import CodeClones.Json.Value
import CodeClones.Log.Format
import CodeClones.Source.File

/-!
# Configuration

What can be set: the log filter and format, how far past its base an occurrence may end, and from
which column on faults are shown without their line. A configuration is written as JSON. Every
field may be left out, and members that are no fields are passed over, so that a file can be shared
with other tools.
-/

namespace CodeClones

open Json (Reading Value Problem Shape)

/-- The format that a value stands for. -/
def Log.Format.ofReading (r : Reading) : Except Problem Log.Format :=
  (r.toWord (Log.Format.all.map Log.Format.text)).map fun word =>
    (Log.Format.ofText? word).getD .json

/-- What can be set. -/
structure Config where
  /-- Which events are logged. -/
  logFilter : String := "info"
  logFormat : Log.Format := .json
  /-- How many lines past its base an occurrence may end. -/
  slack : UInt32 := Clone.defaultSlack
  /-- The column from which on faults are shown without their line. -/
  columnLimit : UInt32 := SourceFile.defaultColumnLimit
deriving DecidableEq, Repr

namespace Config

/-- The configuration in which nothing is set. -/
def default : Config := {}

/-- The JSON form of a configuration. -/
def form (c : Config) : Value :=
  .object [("log_filter", .string c.logFilter), ("log_format", .string c.logFormat.text),
    ("end_line_slack", .number c.slack.toNat), ("caret_column_limit", .number c.columnLimit.toNat)]

/-- The settings found so far. -/
structure Draft where
  logFilter : Option String := none
  logFormat : Option Log.Format := none
  slack : Option UInt32 := none
  columnLimit : Option UInt32 := none

/-- The default configuration with the settings of a draft in place of its own. -/
def Draft.config (d : Draft) : Config where
  logFilter := d.logFilter.getD default.logFilter
  logFormat := d.logFormat.getD default.logFormat
  slack := d.slack.getD default.slack
  columnLimit := d.columnLimit.getD default.columnLimit

/-- The fields of a configuration. -/
def shape : Shape Draft Config where
  name := "Config"
  fields := [
    { name := "log_filter", required := false, read := Reading.toText
      get := (·.logFilter), set := fun d s => { d with logFilter := some s } },
    { name := "log_format", required := false, read := Log.Format.ofReading
      get := (·.logFormat), set := fun d f => { d with logFormat := some f } },
    { name := "end_line_slack", required := false, read := Reading.toUInt32
      get := (·.slack), set := fun d n => { d with slack := some n } },
    { name := "caret_column_limit", required := false, read := Reading.toUInt32
      get := (·.columnLimit), set := fun d n => { d with columnLimit := some n } }]
  blank := {}
  build := fun d => .ok d.config

/-- The configuration that a value stands for. -/
def ofReading (r : Reading) : Except Problem Config :=
  shape.decode r

end Config

end CodeClones
