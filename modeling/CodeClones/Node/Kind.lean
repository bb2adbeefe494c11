/-!
# Kinds of nodes

The syntactic category of a node is known by its tag. The categories that the library reasons about
have constructors of their own; `Kind.ofTag` always takes these where it can, so that two kinds
made from tags are equal exactly when the tags are.
-/

namespace CodeClones

/-- The syntactic category of a node. -/
inductive Kind where
  | program
  | blockStatement
  | expressionStatement
  | assignmentExpression
  | callExpression
  | memberExpression
  | variableDeclaration
  | variableDeclarator
  | importDeclaration
  | arrayExpression
  | arrayPattern
  | identifier
  | literal
  | jsxText
  /-- Any other category, by its tag. -/
  | other (tag : String)
deriving DecidableEq, Repr, Inhabited

namespace Kind

/-- The kind with a given tag. -/
def ofTag (tag : String) : Kind :=
  match tag with
  | "Program" => program
  | "BlockStatement" => blockStatement
  | "ExpressionStatement" => expressionStatement
  | "AssignmentExpression" => assignmentExpression
  | "CallExpression" => callExpression
  | "MemberExpression" => memberExpression
  | "VariableDeclaration" => variableDeclaration
  | "VariableDeclarator" => variableDeclarator
  | "ImportDeclaration" => importDeclaration
  | "ArrayExpression" => arrayExpression
  | "ArrayPattern" => arrayPattern
  | "Identifier" => identifier
  | "Literal" => literal
  | "JSXText" => jsxText
  | tag => other tag

/-- The tag of a kind. -/
def tag : Kind → String
  | program => "Program"
  | blockStatement => "BlockStatement"
  | expressionStatement => "ExpressionStatement"
  | assignmentExpression => "AssignmentExpression"
  | callExpression => "CallExpression"
  | memberExpression => "MemberExpression"
  | variableDeclaration => "VariableDeclaration"
  | variableDeclarator => "VariableDeclarator"
  | importDeclaration => "ImportDeclaration"
  | arrayExpression => "ArrayExpression"
  | arrayPattern => "ArrayPattern"
  | identifier => "Identifier"
  | literal => "Literal"
  | jsxText => "JSXText"
  | other tag => tag

/-- Whether the kind has no constructor of its own. -/
def isOther : Kind → Bool
  | other _ => true
  | _ => false

/-- Whether nodes of this kind are compared by their value. -/
def carriesValue : Kind → Bool
  | literal | jsxText => true
  | _ => false

/-- The kind made from a tag has that tag. -/
@[simp]
theorem tag_ofTag (t : String) : (ofTag t).tag = t := by
  unfold ofTag
  split <;> rfl

/-- Kinds made from tags are equal exactly when the tags are. -/
theorem ofTag_inj {s t : String} : ofTag s = ofTag t ↔ s = t :=
  ⟨fun h => by simpa using congrArg tag h, fun h => h ▸ rfl⟩

end Kind

end CodeClones
