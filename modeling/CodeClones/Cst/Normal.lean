import CodeClones.Cst.Literal
import CodeClones.Cst.Reference
import CodeClones.Cst.Roles
import CodeClones.Cst.Tree
import CodeClones.Node.Basic

/-!
# From concrete to normalised trees

Only named nodes stay. Transparent wrappers give way to their children at any depth, stretches of
markup text and character references join into one node, and elements left out of an array leave
holes. Each function gives the list of slots that its part of the tree contributes, so that the
slots of siblings are those of the parts one after the other.
-/

namespace CodeClones.Cst

/-- The source that a tree was made from. -/
structure Origin where
  /-- The name recorded in every span. -/
  filename : String
  source : String
deriving Repr, Inhabited

namespace Origin

/-- The span from one point to another. -/
def span (o : Origin) (start stop : Point) : Span :=
  ⟨o.filename, start.position, stop.position⟩

/-- The text of one part of a markup text, with a character reference resolved. -/
def partText (o : Origin) (part : Tree) : String :=
  let raw := part.text o.source
  if part.kind = "html_character_reference" then decodeReference raw else raw

/-- The slot of a run of adjacent text parts; an empty run has none. -/
def textRun (o : Origin) : List Tree → List (Option Node)
  | [] => []
  | first :: rest =>
    let parts := first :: rest
    let last := parts.getLast (by simp [parts])
    [some {
      kind := .jsxText
      name := none
      value := some (.string (String.join (parts.map o.partText)))
      span := o.span first.start last.stop
      slots := [] }]

end Origin

/-- The tag of an export, told by its tokens: a default, a star, or anything else. -/
def tagOfExport (children : List Tree) : String :=
  let tag? (child : Tree) : Option String :=
    match child.kind with
    | "default" => some "ExportDefaultDeclaration"
    | "*" => some "ExportAllDeclaration"
    | "namespace_export" => some "ExportAllDeclaration"
    | _ => none
  (children.findSome? tag?).getD "ExportNamedDeclaration"

/-- The tag of a node that is neither a name nor a literal. -/
def nodeTag (kind : String) (children : List Tree) : String :=
  if kind = "export_statement" then tagOfExport children else tagOf kind

mutual

/-- The slots that a node contributes to its parent, whose kind is given. -/
def treeSlots (o : Origin) (parent : String) : Tree → List (Option Node)
  | ⟨kind, named, _, _, _, firstByte, endByte, start, stop, children⟩ =>
    if !named || isDropped kind then []
    else if isTransparent kind then partSlots o kind [] children
    else
      let text := Text.slice o.source firstByte endByte
      let span := o.span start stop
      if isName kind then
        [some { kind := .identifier, name := some text, value := none, span, slots := [] }]
      else
        match literalOf? kind (parent == "jsx_attribute") text with
        | some value =>
          [some { kind := .literal, name := none, value := some value, span, slots := [] }]
        | none =>
          let slots :=
            if allowsHoles kind then elementSlots o kind false children
            else partSlots o kind [] children
          [some { kind := .ofTag (nodeTag kind children), name := none, value := none, span, slots }]

/-- The slots of the children of a node of the given kind, after a run of text parts that has not
ended yet. -/
def partSlots (o : Origin) (parent : String) (run : List Tree) : List Tree → List (Option Node)
  | [] => o.textRun run
  | child :: rest =>
    if isTextPart child.kind then partSlots o parent (run ++ [child]) rest
    else o.textRun run ++ treeSlots o parent child ++ partSlots o parent [] rest

/-- The slots of the elements of a list. A comma where an element is expected leaves a hole. -/
def elementSlots (o : Origin) (parent : String) (expecting : Bool) :
    List Tree → List (Option Node)
  | [] => []
  | child :: rest =>
    if child.kind = "[" then elementSlots o parent true rest
    else if child.kind = "," then
      (if expecting then [none] else []) ++ elementSlots o parent true rest
    else if child.named && !isDropped child.kind then
      treeSlots o parent child ++ elementSlots o parent false rest
    else elementSlots o parent expecting rest

end

/-- The slots of all children of a node of the given kind. -/
def childSlots (o : Origin) (kind : String) (children : List Tree) : List (Option Node) :=
  if allowsHoles kind then elementSlots o kind false children else partSlots o kind [] children

/-- The top-level nodes of a program. -/
def programNodes (o : Origin) (root : Tree) : List Node :=
  (childSlots o root.kind root.children).filterMap id

end CodeClones.Cst
