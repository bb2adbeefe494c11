import CodeClones.Node.ModuleIdiom
import CodeClones.Proofs.Cst.Exchange

/-!
# Module idioms in concrete code

The recognisers of module idioms find callees and arguments by their place among the children of a
normalised node. What stands at which place is told here from the concrete tree: below a node without
texts and holes every child that counts contributes its slots in order (`Tree.Holds.childSlots_eq`), and
a node in parentheses contributes itself alone (`Tree.Encloses.treeSlots_eq`).

`RequireStatement` takes a statement apart that calls `require`. Such a call is a loader call in any
case. Whether it counts as a call with a dependency list is decided by the child behind the callee, and
that is the first argument only where the call has no type arguments: `requireStatement_idioms`.
-/

namespace CodeClones

namespace Node

variable {n : Node}

/-- Only markup text is ever blank. -/
lemma isBlank_eq_false (h : n.kind ≠ .jsxText) : n.isBlank = false := by
  rw [Bool.eq_false_iff, Ne, isBlank_iff]
  exact fun blank => h blank.1

/-- A node that is not blank is among those present in its slots. -/
lemma present_of_not_blank (h : n.isBlank = false) (rest : List (Option Node)) :
    present (some n :: rest) = n :: present rest := by
  rw [present_some, if_neg (Bool.eq_false_iff.mp h)]

/-- The nodes present in slots side by side are those of both. -/
lemma present_append (slots slots' : List (Option Node)) :
    present (slots ++ slots') = present slots ++ present slots' := by
  rw [present, List.filterMap_append, List.filter_append, ← present, ← present]

/-- Where no node is blank, all are present. -/
lemma present_map_some {nodes : List Node} (visible : ∀ n ∈ nodes, n.isBlank = false) :
    present (nodes.map some) = nodes := by
  induction nodes with
  | nil => rfl
  | cons n nodes ih =>
    rw [List.map_cons, present_of_not_blank (visible n List.mem_cons_self),
      ih fun m hm => visible m (List.mem_cons_of_mem _ hm)]

/-- A node calls `require` when it is a call whose first child is an identifier of that name. -/
lemma callsRequire_iff :
    n.callsRequire ↔ n.kind = .callExpression ∧
      ∃ callee ∈ n.children.head?, callee.kind = .identifier ∧ callee.name = some "require" := by
  rw [callsRequire]
  cases n.children.head? with
  | none => simp
  | some callee => simp

/-- A statement that calls `require` calls a loader. -/
lemma isLoaderCall_of_callsRequire (h : n.statementBody.callsRequire) : n.isLoaderCall := by
  obtain ⟨call, callee, first, identifier, name⟩ := callsRequire_iff.mp h
  have called : callee.calledName? = some "require" := by rw [calledName?, identifier, name]
  rw [Option.mem_def] at first
  simp [isLoaderCall, call, first, called]

/-- A statement that calls `require` requires a module unless it hands over a dependency list. -/
lemma requiresModule_of_callsRequire (statement : n.kind = .expressionStatement)
    (h : n.statementBody.callsRequire) :
    n.requiresModule = !n.statementBody.takesDependencyList := by
  have call := (callsRequire_iff.mp h).1
  simp [requiresModule, statement, call, h]

end Node

namespace Cst

namespace Tree

/-- The children of a node, tokens and comments apart, are the given ones, and no text is among them. -/
structure Holds (t : Tree) (parts : List Tree) : Prop where
  kept : t.children.filter isKept = parts
  noText : ∀ child ∈ t.children, isTextPart child.kind = false

/-- A node that is another one, or holds it in any number of parentheses with nothing beside it but
tokens and comments. -/
inductive Encloses : Tree → Tree → Prop where
  | bare {e} :
    Encloses e e
  | parentheses {w t e} :
    w.kind = "parenthesized_expression" →
    w.Holds [t] →
    Encloses t e →
    Encloses w e

end Tree

section Roles

/-- Kinds that do not share the tags of arrays and of texts. -/
def ReservesTags (kind : String) : Prop :=
  (tagOf kind = "ArrayExpression" → kind = "array") ∧ (tagOf kind = "JSXText" → isTextPart kind)

instance (kind : String) : Decidable (ReservesTags kind) :=
  inferInstanceAs (Decidable
    ((tagOf kind = "ArrayExpression" → kind = "array") ∧ (tagOf kind = "JSXText" → isTextPart kind)))

/-- Kinds that neither give way to their children nor share the tag of texts. -/
def StandsAlone (kind : String) : Prop :=
  isTransparent kind = false ∧ (tagOf kind = "JSXText" → isTextPart kind)

instance (kind : String) : Decidable (StandsAlone kind) :=
  inferInstanceAs (Decidable
    (isTransparent kind = false ∧ (tagOf kind = "JSXText" → isTextPart kind)))

/-- The tags of exports. -/
def exportTags : List String :=
  ["ExportDefaultDeclaration", "ExportAllDeclaration", "ExportNamedDeclaration"]

/-- The tag of an export is one of the three there are. -/
lemma tagOfExport_mem (children : List Tree) : tagOfExport children ∈ exportTags := by
  rw [tagOfExport_eq]
  cases found : children.findSome? fun child => exportTag? child.kind with
  | none => decide
  | some tag =>
    obtain ⟨child, -, told⟩ := List.exists_of_findSome?_eq_some found
    unfold exportTag? at told
    split at told
    · cases told
      decide
    · cases told
      decide
    · cases told
      decide
    · cases told

/-- A tag that is not that of an export comes from the kind alone. -/
lemma tagOf_of_nodeTag {kind tag : String} {children : List Tree} (h : nodeTag kind children = tag)
    (other : tag ∉ exportTags) : tagOf kind = tag := by
  rw [nodeTag] at h
  split_ifs at h
  · exact absurd (h ▸ tagOfExport_mem children) other
  · exact h

end Roles

section Kinds

variable {o : Origin} {parent : String} {t : Tree}

/-- A node whose tag is neither that of a name or a literal nor that of an export has it from its
kind. -/
lemma tagOf_of_kind_treeNode {tag : String} (other : tag ∉ exportTags)
    (inner : Kind.ofTag tag ≠ .identifier ∧ Kind.ofTag tag ≠ .literal)
    (h : (treeNode o parent t).kind = .ofTag tag) : tagOf t.kind = tag := by
  rcases treeNode_cases o parent t with ⟨-, e⟩ | ⟨-, -, value, e⟩ | ⟨-, -, e⟩
  · rw [e] at h
    exact absurd h.symm inner.1
  · rw [e] at h
    exact absurd h.symm inner.2
  · rw [e] at h
    exact tagOf_of_nodeTag (Kind.ofTag_inj.mp h) other

/-- A node is an identifier of some name just if it is a name with that text. -/
lemma treeNode_names_iff {name : String} :
    ((treeNode o parent t).kind = .identifier ∧ (treeNode o parent t).name = some name) ↔
      isName t.kind ∧ t.text o.source = name := by
  rcases treeNode_cases o parent t with ⟨named, e⟩ | ⟨other, -, value, e⟩ | ⟨other, -, e⟩
  · simp [e, named]
  · simp [e, other]
  · simp [e, other]

/-- Only a text can be blank, so a node is not when the tag of texts is that of text parts alone. -/
lemma isBlank_treeNode (reserved : tagOf t.kind = "JSXText" → isTextPart t.kind)
    (noText : isTextPart t.kind = false) : (treeNode o parent t).isBlank = false := by
  have kind : (treeNode o parent t).kind ≠ .jsxText := by
    intro h
    have text := reserved (tagOf_of_kind_treeNode (by decide) ⟨nofun, nofun⟩ h)
    rw [noText] at text
    cases text
  exact Node.isBlank_eq_false kind

/-- The kind of a node that is no name, literal or export is that of its tag. -/
lemma kind_treeNode_of_eq {kind : String} (h : t.kind = kind)
    (node : (isName kind || isLiteral kind) = false) (noExport : kind ≠ "export_statement") :
    (treeNode o parent t).kind = .ofTag (tagOf kind) := by
  subst h
  rw [treeNode_of_inner node, nodeTag, if_neg noExport]

/-- A tag that one kind has to itself tells the nodes of that kind. -/
lemma kind_treeNode_eq_iff {kind tag : String} (reserved : tagOf t.kind = tag → t.kind = kind)
    (own : tagOf kind = tag) (node : (isName kind || isLiteral kind) = false)
    (noExport : kind ≠ "export_statement") (other : tag ∉ exportTags)
    (inner : Kind.ofTag tag ≠ .identifier ∧ Kind.ofTag tag ≠ .literal) :
    (treeNode o parent t).kind = .ofTag tag ↔ t.kind = kind := by
  constructor
  · intro h
    exact reserved (tagOf_of_kind_treeNode other inner h)
  · intro h
    rw [kind_treeNode_of_eq h node noExport, own]

/-- The node of a tree is an array just when the tree is one. -/
lemma kind_treeNode_eq_array_iff (reserved : ReservesTags t.kind) :
    (treeNode o parent t).kind = .arrayExpression ↔ t.kind = "array" :=
  kind_treeNode_eq_iff reserved.1 rfl rfl (by decide) (by decide) ⟨nofun, nofun⟩

end Kinds

section Children

variable {o : Origin} {parent : String}

/-- Children that are not kept have no slots. -/
lemma flatMap_filter_kept (children : List Tree) :
    (children.filter Tree.isKept).flatMap (treeSlots o parent) =
      children.flatMap (treeSlots o parent) := by
  induction children with
  | nil => rfl
  | cons child children ih =>
    cases kept : child.isKept with
    | true =>
      rw [List.filter_cons_of_pos kept, List.flatMap_cons, ih, List.flatMap_cons]
    | false =>
      rw [List.filter_cons_of_neg (Bool.eq_false_iff.mp kept), ih, List.flatMap_cons,
        treeSlots_of_not_kept o parent kept, List.nil_append]

namespace Tree

/-- What a node holds counts and is no text. -/
lemma Holds.mem {t part : Tree} {parts : List Tree} (h : t.Holds parts) (hp : part ∈ parts) :
    part.isKept ∧ isTextPart part.kind = false := by
  rw [← h.kept, List.mem_filter] at hp
  exact ⟨hp.2, h.noText part hp.1⟩

/-- The slots of a node without texts and holes are those of the children that count. -/
lemma Holds.childSlots_eq {t : Tree} {parts : List Tree} (h : t.Holds parts)
    (noHoles : allowsHoles t.kind = false) :
    childSlots o t.kind t.children = parts.flatMap (treeSlots o t.kind) := by
  rw [childSlots, if_neg (Bool.eq_false_iff.mp noHoles), partSlots_eq_flatMap o t.kind h.noText,
    ← h.kept, flatMap_filter_kept]

/-- Below a node without texts and holes there is first one node for each part that stands alone. -/
lemma Holds.children_treeNode {t : Tree} {front rest : List Tree} (h : t.Holds (front ++ rest))
    (inner : (isName t.kind || isLiteral t.kind) = false) (noHoles : allowsHoles t.kind = false)
    (alone : ∀ part ∈ front, StandsAlone part.kind) :
    (treeNode o parent t).children =
      front.map (treeNode o t.kind) ++ Node.present (rest.flatMap (treeSlots o t.kind)) := by
  have mem : ∀ part ∈ front, part.isKept ∧ isTextPart part.kind = false := fun part hp =>
    h.mem (List.mem_append_left rest hp)
  have slots : front.flatMap (treeSlots o t.kind) = (front.map (treeNode o t.kind)).map some := by
    rw [List.map_map, List.map_eq_flatMap]
    apply List.flatMap_congr
    intro part hp
    exact treeSlots_of_solid (mem part hp).1 (alone part hp).1
  have visible : ∀ n ∈ front.map (treeNode o t.kind), n.isBlank = false := by
    intro n hn
    obtain ⟨part, hp, rfl⟩ := List.mem_map.mp hn
    exact isBlank_treeNode (alone part hp).2 (mem part hp).2
  rw [treeNode_of_inner inner, Node.children, h.childSlots_eq noHoles, List.flatMap_append, slots,
    Node.present_append, Node.present_map_some visible]

/-- What is inside parentheses that count counts too. -/
lemma Encloses.inner {w e : Tree} (h : w.Encloses e)
    (outer : w.isKept ∧ isTextPart w.kind = false) : e.isKept ∧ isTextPart e.kind = false := by
  induction h with
  | bare => exact outer
  | parentheses _ holds _ ih => exact ih (holds.mem List.mem_cons_self)

/-- In any number of parentheses a node contributes itself, below another parent perhaps. -/
lemma Encloses.treeSlots_eq {w e : Tree} (h : w.Encloses e) (kept : w.isKept)
    (solid : isTransparent e.kind = false) (o : Origin) (parent : String) :
    ∃ parent', treeSlots o parent w = [some (treeNode o parent' e)] := by
  induction h generalizing parent with
  | bare => exact ⟨parent, treeSlots_of_solid kept solid⟩
  | @parentheses w t e kind holds _ ih =>
    -- the parentheses vanish, and what they hold goes on below them
    have thin : isTransparent w.kind := by rw [kind]; rfl
    rw [Cst.treeSlots_eq, if_pos kept, if_pos thin,
      holds.childSlots_eq (allowsHoles_of_isTransparent thin), List.flatMap_singleton]
    exact ih (holds.mem List.mem_cons_self).1 solid w.kind

end Tree

/-- The first of some nodes in parentheses can be told to be an array by the first node that they
contribute. -/
lemma first_isArray_iff {listed inner : List Tree} (enclosed : List.Forall₂ Tree.Encloses listed inner)
    (outer : ∀ t ∈ listed, t.isKept ∧ isTextPart t.kind = false)
    (plain : ∀ e ∈ inner.head?, isTransparent e.kind = false ∧ ReservesTags e.kind) :
    ((Node.present (listed.flatMap (treeSlots o parent)))[0]?.any fun n =>
      n.kind = .arrayExpression) ↔ ∃ e ∈ inner.head?, e.kind = "array" := by
  cases enclosed with
  | nil => simp
  | @cons t e listed inner first _ =>
    obtain ⟨kept, noText⟩ := outer t List.mem_cons_self
    obtain ⟨solid, reserved⟩ := plain e rfl
    obtain ⟨parent', slots⟩ := first.treeSlots_eq kept solid o parent
    have visible : (treeNode o parent' e).isBlank = false :=
      isBlank_treeNode reserved.2 (first.inner ⟨kept, noText⟩).2
    rw [List.flatMap_cons, slots, List.singleton_append, Node.present_of_not_blank visible,
      List.getElem?_cons_zero, Option.any_some, decide_eq_true_iff,
      kind_treeNode_eq_array_iff reserved]
    simp

end Children

/-- A statement that calls `require`, taken apart. Its expression is a call, perhaps in parentheses; the
call has a callee, perhaps type arguments, and a list of arguments, each perhaps in parentheses. -/
structure RequireStatement (source : String) where
  statement : Tree
  /-- The expression of the statement as it stands there. -/
  expression : Tree
  call : Tree
  callee : Tree
  types : Option Tree
  list : Tree
  /-- The arguments as they stand in the list. -/
  listed : List Tree
  /-- The arguments without their parentheses. -/
  arguments : List Tree
  isStatement : statement.named ∧ statement.kind = "expression_statement"
  ofStatement : statement.Holds [expression]
  enclosed : expression.Encloses call
  isCall : call.kind = "call_expression"
  ofCall : call.Holds (callee :: (types.toList ++ [list]))
  isCallee : callee.kind = "identifier" ∧ callee.text source = "require"
  areTypes : ∀ t ∈ types, t.kind = "type_arguments"
  isList : list.kind = "arguments"
  ofList : list.Holds listed
  enclosedArguments : List.Forall₂ Tree.Encloses listed arguments
  /-- The first argument is no further wrapper, and its tag tells whether it is an array. -/
  plain : ∀ e ∈ arguments.head?, isTransparent e.kind = false ∧ ReservesTags e.kind

namespace RequireStatement

variable {o : Origin} (r : RequireStatement o.source)

/-- Behind the callee there are the type arguments, if any, and then the arguments. -/
lemma children_call (parent : String) :
    (treeNode o parent r.call).children =
      (r.callee :: r.types.toList).map (treeNode o r.call.kind) ++
        Node.present (r.listed.flatMap (treeSlots o r.list.kind)) := by
  have inner : (isName r.call.kind || isLiteral r.call.kind) = false := by rw [r.isCall]; rfl
  have noHoles : allowsHoles r.call.kind = false := by rw [r.isCall]; rfl
  have alone : ∀ t ∈ r.callee :: r.types.toList, StandsAlone t.kind := by
    intro t ht
    rcases List.mem_cons.mp ht with rfl | ht
    · rw [r.isCallee.1]
      decide
    · rw [r.areTypes t (Option.mem_toList.mp ht)]
      decide
  have list : treeSlots o r.call.kind r.list = r.listed.flatMap (treeSlots o r.list.kind) := by
    have thin : isTransparent r.list.kind := by rw [r.isList]; rfl
    have kept : r.list.isKept := (r.ofCall.mem (by simp)).1
    rw [treeSlots_eq, if_pos kept, if_pos thin,
      r.ofList.childSlots_eq (allowsHoles_of_isTransparent thin)]
  have parts : r.call.Holds ((r.callee :: r.types.toList) ++ [r.list]) := r.ofCall
  rw [parts.children_treeNode inner noHoles alone, List.flatMap_singleton, list]

/-- The node of the call is a call. -/
lemma kind_call (parent : String) : (treeNode o parent r.call).kind = .callExpression :=
  kind_treeNode_of_eq r.isCall rfl (by decide)

/-- The node of the callee is an identifier with the name `require`. -/
lemma treeNode_callee (parent : String) :
    (treeNode o parent r.callee).kind = .identifier ∧
      (treeNode o parent r.callee).name = some "require" := by
  rw [treeNode_names_iff, r.isCallee.1, r.isCallee.2]
  exact ⟨rfl, rfl⟩

/-- The call calls `require`. -/
lemma callsRequire_call (parent : String) : (treeNode o parent r.call).callsRequire := by
  rw [Node.callsRequire_iff]
  refine ⟨r.kind_call parent, _, ?_, r.treeNode_callee r.call.kind⟩
  rw [r.children_call]
  rfl

/-- The first argument is taken for a list of dependencies when it is an array and there are no type
arguments. -/
lemma takesDependencyList_call (parent : String) :
    (treeNode o parent r.call).takesDependencyList ↔
      r.types = none ∧ ∃ e ∈ r.arguments.head?, e.kind = "array" := by
  rw [Node.takesDependencyList, r.children_call, List.map_cons, List.cons_append,
    List.getElem?_cons_succ]
  cases types : r.types with
  | some t =>
    -- the type arguments stand where the first argument is looked for, and they are no array
    have kind : (treeNode o r.call.kind t).kind = .other "TypeArguments" :=
      kind_treeNode_of_eq (r.areTypes t types) rfl (by decide)
    simp [kind]
  | none =>
    rw [Option.toList_none, List.map_nil, List.nil_append,
      first_isArray_iff r.enclosedArguments (fun t ht => r.ofList.mem ht) r.plain]
    exact (and_iff_right rfl).symm

/-- The node of the statement is an expression statement. -/
lemma kind_statement (parent : String) :
    (treeNode o parent r.statement).kind = .expressionStatement :=
  kind_treeNode_of_eq r.isStatement.2 rfl (by decide)

/-- Whatever parentheses it stands in, the call is the body of the statement. -/
lemma statementBody_statement (parent : String) :
    ∃ parent', (treeNode o parent r.statement).statementBody = treeNode o parent' r.call := by
  have kind := r.isStatement.2
  have noHoles : allowsHoles r.statement.kind = false := by rw [kind]; rfl
  have solid : isTransparent r.call.kind = false := by rw [r.isCall]; rfl
  obtain ⟨parent', slots⟩ :=
    r.enclosed.treeSlots_eq (r.ofStatement.mem List.mem_cons_self).1 solid o r.statement.kind
  have visible : (treeNode o parent' r.call).isBlank = false :=
    Node.isBlank_eq_false (by simp [r.kind_call])
  have parts : r.statement.Holds ([] ++ [r.expression]) := r.ofStatement
  have children : (treeNode o parent r.statement).children = [treeNode o parent' r.call] := by
    rw [parts.children_treeNode (by rw [kind]; rfl) noHoles nofun, List.map_nil, List.nil_append,
      List.flatMap_singleton, slots, Node.present_of_not_blank visible, Node.present_nil]
  refine ⟨parent', ?_⟩
  rw [Node.statementBody, if_pos (r.kind_statement parent), children]
  rfl

end RequireStatement

/-- A statement that calls `require` becomes one node, which is a loader call. It does not count as a
statement that requires a module exactly when the call has no type arguments and its first argument is
an array. -/
theorem requireStatement_idioms (o : Origin) (r : RequireStatement o.source) (parent : String) :
    ∃ n, treeSlots o parent r.statement = [some n] ∧
      Node.usesLoader [n] ∧
      (Node.usesRequire [n] = false ↔
        r.types = none ∧ ∃ e ∈ r.arguments.head?, e.kind = "array") := by
  obtain ⟨named, kind⟩ := r.isStatement
  have kept : r.statement.isKept := by
    rw [Tree.isKept, named, kind]
    rfl
  obtain ⟨parent', body⟩ := r.statementBody_statement parent
  have calls : (treeNode o parent r.statement).statementBody.callsRequire := by
    rw [body]
    exact r.callsRequire_call parent'
  refine ⟨_, treeSlots_of_solid kept (by rw [kind]; rfl), ?_, ?_⟩
  · rw [Node.usesLoader, List.any_cons, Node.isLoaderCall_of_callsRequire calls, Bool.true_or]
  · rw [Node.usesRequire, List.any_cons, List.any_nil, Bool.or_false,
      Node.requiresModule_of_callsRequire (r.kind_statement parent) calls, body,
      Bool.not_eq_false', r.takesDependencyList_call]

/-- The statement `(require((/**/['a'])));`, with a comment inside the parentheses of the argument. -/
def nestedRequire : RequireStatement "(require((/**/['a'])));" :=
  let array : Tree := .onFirstRow "array" true 14 19 [
    .onFirstRow "[" false 14 15 [],
    .onFirstRow "string" true 15 18 [
      .onFirstRow "'" false 15 16 [], .onFirstRow "string_fragment" true 16 17 [],
      .onFirstRow "'" false 17 18 []],
    .onFirstRow "]" false 18 19 []]
  let argument : Tree := .onFirstRow "parenthesized_expression" true 9 20 [
    .onFirstRow "(" false 9 10 [], .onFirstRow "comment" true 10 14 [], array,
    .onFirstRow ")" false 19 20 []]
  let list : Tree := .onFirstRow "arguments" true 8 21 [
    .onFirstRow "(" false 8 9 [], argument, .onFirstRow ")" false 20 21 []]
  let callee : Tree := .onFirstRow "identifier" true 1 8 []
  let call : Tree := .onFirstRow "call_expression" true 1 21 [callee, list]
  let expression : Tree := .onFirstRow "parenthesized_expression" true 0 22 [
    .onFirstRow "(" false 0 1 [], call, .onFirstRow ")" false 21 22 []]
  { statement := .onFirstRow "expression_statement" true 0 23 [
      expression, .onFirstRow ";" false 22 23 []]
    expression, call, callee, types := none, list, listed := [argument], arguments := [array]
    isStatement := ⟨rfl, rfl⟩
    ofStatement := ⟨rfl, by decide⟩
    enclosed := .parentheses rfl ⟨rfl, by decide⟩ .bare
    isCall := rfl
    ofCall := ⟨rfl, by decide⟩
    isCallee := ⟨rfl, by decide +kernel⟩
    areTypes := nofun
    isList := rfl
    ofList := ⟨rfl, by decide⟩
    enclosedArguments := .cons (.parentheses rfl ⟨rfl, by decide⟩ .bare) .nil
    plain := by
      rintro _ ⟨⟩
      exact ⟨rfl, by decide⟩ }

/-- The array is found in its parentheses, behind the comment. -/
theorem requireStatement_idioms_nested :
    ∃ n, treeSlots ⟨"a.js", "(require((/**/['a'])));"⟩ "program" nestedRequire.statement = [some n] ∧
      Node.usesLoader [n] ∧ Node.usesRequire [n] = false := by
  obtain ⟨n, slots, loader, requires⟩ :=
    requireStatement_idioms ⟨"a.js", "(require((/**/['a'])));"⟩ nestedRequire "program"
  exact ⟨n, slots, loader, requires.mpr ⟨rfl, _, rfl, rfl⟩⟩

/-- The statement `require<T>(['a']);`. -/
def typedRequire : RequireStatement "require<T>(['a']);" :=
  let array : Tree := .onFirstRow "array" true 11 16 [
    .onFirstRow "[" false 11 12 [],
    .onFirstRow "string" true 12 15 [
      .onFirstRow "'" false 12 13 [], .onFirstRow "string_fragment" true 13 14 [],
      .onFirstRow "'" false 14 15 []],
    .onFirstRow "]" false 15 16 []]
  let list : Tree := .onFirstRow "arguments" true 10 17 [
    .onFirstRow "(" false 10 11 [], array, .onFirstRow ")" false 16 17 []]
  let callee : Tree := .onFirstRow "identifier" true 0 7 []
  let types : Tree := .onFirstRow "type_arguments" true 7 10 [
    .onFirstRow "<" false 7 8 [], .onFirstRow "type_identifier" true 8 9 [],
    .onFirstRow ">" false 9 10 []]
  let call : Tree := .onFirstRow "call_expression" true 0 17 [callee, types, list]
  { statement := .onFirstRow "expression_statement" true 0 18 [call, .onFirstRow ";" false 17 18 []]
    expression := call, call, callee, types := some types, list, listed := [array]
    arguments := [array]
    isStatement := ⟨rfl, rfl⟩
    ofStatement := ⟨rfl, by decide⟩
    enclosed := .bare
    isCall := rfl
    ofCall := ⟨rfl, by decide⟩
    isCallee := ⟨rfl, by decide +kernel⟩
    areTypes := by
      rintro _ ⟨⟩
      rfl
    isList := rfl
    ofList := ⟨rfl, by decide⟩
    enclosedArguments := .cons .bare .nil
    plain := by
      rintro _ ⟨⟩
      exact ⟨rfl, by decide⟩ }

/-- Behind type arguments an array is not found: the statement counts as one that requires a module
although its first argument is an array. -/
theorem typedRequire_usesRequire :
    (∃ e ∈ typedRequire.arguments.head?, e.kind = "array") ∧
      ∃ n, treeSlots ⟨"t.ts", "require<T>(['a']);"⟩ "program" typedRequire.statement = [some n] ∧
        Node.usesRequire [n] = true :=
  ⟨⟨_, rfl, rfl⟩, _, rfl, by decide +kernel⟩

end Cst

end CodeClones
