import CodeClones.Clone.Basic
import CodeClones.Clone.Bounds
import CodeClones.Clone.Fingerprint
import CodeClones.Clone.Form
import CodeClones.Clone.Snapshot
import CodeClones.Config.Basic
import CodeClones.Config.FileTree
import CodeClones.Config.Loading
import CodeClones.Corpus
import CodeClones.Cst.Escape
import CodeClones.Cst.Literal
import CodeClones.Cst.Normal
import CodeClones.Cst.Reference
import CodeClones.Cst.Roles
import CodeClones.Cst.Tree
import CodeClones.Digest.Sha1
import CodeClones.Json.Decode
import CodeClones.Json.Number
import CodeClones.Json.Reading
import CodeClones.Json.Token
import CodeClones.Json.Value
import CodeClones.Log.Event
import CodeClones.Log.Filter
import CodeClones.Log.Format
import CodeClones.Log.Line
import CodeClones.Log.Subscriber
import CodeClones.Node.Agreement
import CodeClones.Node.Basic
import CodeClones.Node.Kind
import CodeClones.Node.Literal
import CodeClones.Node.ModuleIdiom
import CodeClones.Node.Walk
import CodeClones.Number.Double
import CodeClones.Number.Numeral
import CodeClones.Number.Shortest
import CodeClones.Proofs.Clone.Bounds
import CodeClones.Proofs.Clone.Excerpt
import CodeClones.Proofs.Clone.Extent
import CodeClones.Proofs.Clone.Filling
import CodeClones.Proofs.Clone.Fingerprint
import CodeClones.Proofs.Clone.Refilling
import CodeClones.Proofs.Clone.RoundTrip
import CodeClones.Proofs.Config.Overlay
import CodeClones.Proofs.Corpus.Description
import CodeClones.Proofs.Corpus.History
import CodeClones.Proofs.Corpus.Keyed
import CodeClones.Proofs.Cst.Declaration
import CodeClones.Proofs.Cst.Elision
import CodeClones.Proofs.Cst.Escape
import CodeClones.Proofs.Cst.Exchange
import CodeClones.Proofs.Cst.Grouping
import CodeClones.Proofs.Cst.Idiom
import CodeClones.Proofs.Cst.Inversion
import CodeClones.Proofs.Cst.Layout
import CodeClones.Proofs.Cst.Numeral
import CodeClones.Proofs.Cst.Octal
import CodeClones.Proofs.Cst.Reference
import CodeClones.Proofs.Cst.Retention
import CodeClones.Proofs.Cst.Shape
import CodeClones.Proofs.Cst.Subtrees
import CodeClones.Proofs.Cst.TextRun
import CodeClones.Proofs.Cst.Trivia
import CodeClones.Proofs.Cst.Unlocated
import CodeClones.Proofs.Json.Parsing
import CodeClones.Proofs.Json.Record
import CodeClones.Proofs.Json.Spelling
import CodeClones.Proofs.Json.Writing
import CodeClones.Proofs.Log.Subscriber
import CodeClones.Proofs.Node.Agreement
import CodeClones.Proofs.Node.Layout
import CodeClones.Proofs.Node.Relocation
import CodeClones.Proofs.Node.Shape
import CodeClones.Proofs.Node.Subtrees
import CodeClones.Proofs.Node.Traversal
import CodeClones.Proofs.Number.Digits
import CodeClones.Proofs.Number.Double
import CodeClones.Proofs.Source.Attempts
import CodeClones.Proofs.Source.Caret
import CodeClones.Proofs.Source.Excerpt
import CodeClones.Proofs.Source.Extension
import CodeClones.Proofs.Step
import CodeClones.Proofs.Text.Bytes
import CodeClones.Proofs.Text.Indent
import CodeClones.Proofs.Text.Letters
import CodeClones.Proofs.Text.Path
import CodeClones.Proofs.Text.Shift
import CodeClones.Source.Error
import CodeClones.Source.Fault
import CodeClones.Source.File
import CodeClones.Source.Language
import CodeClones.Span
import CodeClones.Step
import CodeClones.Text.Alphanumeric
import CodeClones.Text.Blank
import CodeClones.Text.Capital
import CodeClones.Text.Indent
import CodeClones.Text.Lines
import CodeClones.Text.Path
import CodeClones.Text.Quoted
import CodeClones.Text.Slice
import CodeClones.Text.Unprintable
