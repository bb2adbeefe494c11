import CodeClones.Text.Capital

/-!
# Roles of kinds

What becomes of a concrete node depends on its kind alone: some are dropped, some give way to their
children, some become identifiers, some join into one text. All others become nodes whose tag comes
from a table, or from the words of the kind written together with capitals.
-/

namespace CodeClones.Cst

/-- Named kinds that mean nothing of their own. -/
def droppedKinds : List String :=
  ["comment", "html_comment", "hash_bang_line", "optional_chain", "string_fragment",
    "escape_sequence", "template_chars", "regex_pattern", "regex_flags"]

/-- Kinds whose children stand in their place. -/
def transparentKinds : List String :=
  ["arguments", "formal_parameters", "required_parameter", "optional_parameter",
    "parenthesized_expression", "else_clause", "finally_clause", "switch_body", "import_clause",
    "named_imports", "export_clause", "template_substitution"]

/-- Kinds that become identifiers, with their text as the name. -/
def nameKinds : List String :=
  ["identifier", "property_identifier", "shorthand_property_identifier",
    "shorthand_property_identifier_pattern", "private_property_identifier", "type_identifier",
    "statement_identifier", "undefined"]

/-- Kinds that join with their neighbours into one text. -/
def textPartKinds : List String :=
  ["jsx_text", "html_character_reference"]

/-- Kinds of lists whose elements may be left out. -/
def holeKinds : List String :=
  ["array", "array_pattern"]

/-- Whether nodes of a kind are dropped. -/
def isDropped (kind : String) : Bool :=
  droppedKinds.contains kind

/-- Whether nodes of a kind give way to their children. -/
def isTransparent (kind : String) : Bool :=
  transparentKinds.contains kind

/-- Whether nodes of a kind become identifiers. -/
def isName (kind : String) : Bool :=
  nameKinds.contains kind

/-- Whether nodes of a kind are parts of a text. -/
def isTextPart (kind : String) : Bool :=
  textPartKinds.contains kind

/-- Whether nodes of a kind are lists whose elements may be left out. -/
def allowsHoles (kind : String) : Bool :=
  holeKinds.contains kind

/-- A word with a capital at its front. -/
def capitalise : List Char → List Char
  | [] => []
  | c :: rest => Text.capitals c ++ rest

/-- Words joined by underscores, written together with capitals. -/
def joinWords (words : List Char) : List Char :=
  (words.splitOn '_').flatMap capitalise

/-- The tag of a kind by its words; markup kinds start with `JSX`. -/
def wordsTag (kind : String) : String :=
  match kind.toList with
  | 'j' :: 's' :: 'x' :: '_' :: rest => "JSX" ++ .ofList (joinWords rest)
  | words => .ofList (joinWords words)

/-- The tag of a kind. -/
def tagOf (kind : String) : String :=
  match kind with
  | "program" => "Program"
  | "statement_block" => "BlockStatement"
  | "lexical_declaration" => "VariableDeclaration"
  | "variable_declaration" => "VariableDeclaration"
  | "import_statement" => "ImportDeclaration"
  | "namespace_import" => "ImportNamespaceSpecifier"
  | "subscript_expression" => "MemberExpression"
  | "augmented_assignment_expression" => "AssignmentExpression"
  | "array" => "ArrayExpression"
  | "object" => "ObjectExpression"
  | "pair" => "ObjectProperty"
  | "pair_pattern" => "ObjectProperty"
  | "rest_pattern" => "RestElement"
  | "arrow_function" => "ArrowFunctionExpression"
  | "function_expression" => "FunctionExpression"
  | "function" => "FunctionExpression"
  | "generator_function" => "FunctionExpression"
  | "generator_function_declaration" => "FunctionDeclaration"
  | "class" => "ClassExpression"
  | "field_definition" => "PropertyDefinition"
  | "public_field_definition" => "PropertyDefinition"
  | "switch_default" => "SwitchCase"
  | "this" => "ThisExpression"
  | "ternary_expression" => "ConditionalExpression"
  | "template_string" => "TemplateLiteral"
  | "jsx_element" => "JSXElement"
  | "jsx_self_closing_element" => "JSXElement"
  | "jsx_expression" => "JSXExpressionContainer"
  | kind => wordsTag kind

end CodeClones.Cst
