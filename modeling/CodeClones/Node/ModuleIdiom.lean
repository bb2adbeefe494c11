import CodeClones.Node.Basic

/-!
# Module idioms

How the sources of a program pull in other modules: by import declarations, by calls to a loader
that takes a list of dependencies, or by calls to `require`. The recognisers look at names only; a
function that happens to be called `require` counts.
-/

namespace CodeClones.Node

/-- The expression of an expression statement; any other node stands for itself. -/
def statementBody (n : Node) : Node :=
  if n.kind = .expressionStatement then n.children.head?.getD n else n

/-- The name by which a callee is known: an identifier's own, or that of the property accessed. -/
def calledName? (callee : Node) : Option String :=
  match callee.kind with
  | .identifier => callee.name
  | .memberExpression =>
    (callee.children[1]?.filter fun property => property.kind = .identifier).bind name
  | _ => none

/-- Whether a node is a call to the identifier `require`. -/
def callsRequire (n : Node) : Bool :=
  n.kind = .callExpression &&
    n.children.head?.any fun callee => callee.kind = .identifier && callee.name = some "require"

/-- Whether the first argument of a call is an array. -/
def takesDependencyList (call : Node) : Bool :=
  call.children[1]?.any fun argument => argument.kind = .arrayExpression

/-- The initial value of a declarator: its last child, when it has more than one. -/
def initialValue? (declarator : Node) : Option Node :=
  (declarator.children.drop 1).getLast?

/-- Whether a group starts with an import declaration. -/
def startsWithImport (group : List Node) : Bool :=
  group.head?.any fun n => n.kind = .importDeclaration

/-- Whether a node is a call to something named `define` or `require`. -/
def isLoaderCall (n : Node) : Bool :=
  let expression := n.statementBody
  expression.kind = .callExpression &&
    (expression.children.head?.bind calledName?).any fun name => name = "define" || name = "require"

/-- Whether a group holds a call to a module loader. -/
def usesLoader (group : List Node) : Bool :=
  group.any isLoaderCall

/-- Whether a node requires a module: as a statement of its own without a dependency list, as the
right side of an assigning statement, or as the initial value in a declaration. -/
def requiresModule (n : Node) : Bool :=
  match n.kind with
  | .expressionStatement =>
    let expression := n.statementBody
    if expression.kind = .assignmentExpression then expression.children[1]?.any callsRequire
    else expression.callsRequire && !expression.takesDependencyList
  | .variableDeclaration =>
    n.children.any fun declarator =>
      declarator.kind = .variableDeclarator && declarator.initialValue?.any callsRequire
  | _ => false

/-- Whether a group holds a node that requires a module. -/
def usesRequire (group : List Node) : Bool :=
  group.any requiresModule

end CodeClones.Node
