import CodeClones.Proofs.Cst.Idiom

/-!
# Modules required by declarations

The initial value of a declarator is looked for at one place: it is the last child of the normalised
declarator, unless it is the only one. `Declarator` takes a declarator apart into what is declared,
perhaps the type, and perhaps a value; `Declarator.initialValue_cases` says that nothing else comes to
that place. A value is a call to `require` when its callee is, parentheses left out
(`Initialiser.callsRequire_iff`), and what is so for one declarator adds up over those of a declaration:
`declaration_idioms`.
-/

namespace CodeClones

namespace Node

variable {n : Node}

/-- A declaration requires a module when the initial value of one of its declarators does. -/
lemma requiresModule_of_declaration (h : n.kind = .variableDeclaration) :
    n.requiresModule = n.children.any fun declarator =>
      declarator.kind = .variableDeclarator && declarator.initialValue?.any callsRequire := by
  simp [requiresModule, h]

/-- A declaration is no call of a loader. -/
lemma isLoaderCall_of_declaration (h : n.kind = .variableDeclaration) : n.isLoaderCall = false := by
  simp [isLoaderCall, statementBody, h]

end Node

namespace Cst

/-- Parentheses around what is no text are no text. -/
lemma Tree.Encloses.outer {w e : Tree} (h : w.Encloses e) (noText : isTextPart e.kind = false) :
    isTextPart w.kind = false := by
  cases h with
  | bare => exact noText
  | parentheses kind =>
    rw [kind]
    rfl

section First

variable {o : Origin} {parent : String} {children : List Tree}

/-- A text part is never dropped, so one that the grammar names takes part. -/
lemma isTextPart_of_not_kept {t : Tree} (named : isTextPart t.kind → t.named)
    (h : t.isKept = false) : isTextPart t.kind = false := by
  by_contra text
  rw [Bool.not_eq_false] at text
  have stays : ∀ kind ∈ textPartKinds, isDropped kind = false := by decide
  rw [Tree.isKept, named text, stays t.kind (List.contains_iff_mem.mp text)] at h
  cases h

variable (named : ∀ child ∈ children, isTextPart child.kind → child.named)
include named

/-- Children of which none counts have no slots. -/
lemma partSlots_of_find?_none (h : children.find? Tree.isKept = none) :
    partSlots o parent [] children = [] := by
  have gone : ∀ child ∈ children, child.isKept = false := fun child hc =>
    Bool.eq_false_iff.mpr (List.find?_eq_none.mp h child hc)
  rw [partSlots_eq_flatMap o parent fun child hc =>
    isTextPart_of_not_kept (named child hc) (gone child hc), List.flatMap_eq_nil_iff]
  intro child hc
  exact treeSlots_of_not_kept o parent (gone child hc)

/-- The slots of children start with those of the first one that counts, unless it is a text. -/
lemma exists_partSlots_of_find? {first : Tree} (h : children.find? Tree.isKept = some first)
    (noText : isTextPart first.kind = false) :
    ∃ rest, partSlots o parent [] children = treeSlots o parent first ++ rest := by
  induction children with
  | nil => cases h
  | cons child children ih =>
    cases kept : child.isKept with
    | true =>
      rw [List.find?_cons_of_pos kept] at h
      cases h
      refine ⟨partSlots o parent [] children, ?_⟩
      rw [partSlots, if_neg (Bool.eq_false_iff.mp noText), textRun_nil, List.nil_append]
    | false =>
      rw [List.find?_cons_of_neg (Bool.eq_false_iff.mp kept)] at h
      have other := isTextPart_of_not_kept (named child List.mem_cons_self) kept
      rw [partSlots, if_neg (Bool.eq_false_iff.mp other), textRun_nil, List.nil_append,
        treeSlots_of_not_kept o parent kept, List.nil_append]
      exact ih (fun c hc => named c (List.mem_cons_of_mem _ hc)) h

end First

/-- An expression where it stands, perhaps in parentheses. What they hold is neither a further wrapper nor
a text, and its tag tells whether it is a call. -/
structure Operand where
  listed : Tree
  /-- The expression without its parentheses. -/
  bare : Tree
  kept : listed.isKept
  enclosed : listed.Encloses bare
  alone : StandsAlone bare.kind
  noText : isTextPart bare.kind = false
  reserved : tagOf bare.kind = "CallExpression" → bare.kind = "call_expression"

namespace Operand

variable (x : Operand)

/-- An operand has one slot, with the node of the expression without its parentheses. -/
lemma treeSlots_listed (o : Origin) (parent : String) :
    ∃ parent', treeSlots o parent x.listed = [some (treeNode o parent' x.bare)] :=
  x.enclosed.treeSlots_eq x.kept x.alone.1 o parent

/-- The node of an operand takes part in walks. -/
lemma isBlank_bare (o : Origin) (parent : String) : (treeNode o parent x.bare).isBlank = false :=
  isBlank_treeNode x.alone.2 x.noText

/-- The node of an operand is a call just when the expression is one. -/
lemma kind_bare_eq_call_iff (o : Origin) (parent : String) :
    (treeNode o parent x.bare).kind = .callExpression ↔ x.bare.kind = "call_expression" :=
  kind_treeNode_eq_iff x.reserved rfl rfl (by decide) (by decide) ⟨nofun, nofun⟩

end Operand

/-- The value of a declarator. If it is a call, the callee is the first child that counts. -/
structure Initialiser where
  value : Operand
  callee : Option Operand
  isCallee : value.bare.kind = "call_expression" →
    value.bare.children.find? Tree.isKept = callee.map Operand.listed
  /-- No token of a call is a text. -/
  textsNamed : value.bare.kind = "call_expression" →
    ∀ child ∈ value.bare.children, isTextPart child.kind → child.named

namespace Initialiser

/-- Whether a value is a call of something with the name `require`, parentheses left out. -/
def Requires (source : String) (i : Initialiser) : Prop :=
  i.value.bare.kind = "call_expression" ∧
    ∃ callee ∈ i.callee, isName callee.bare.kind ∧ callee.bare.text source = "require"

variable {o : Origin} (i : Initialiser)

/-- The first child of a call is its callee. -/
lemma head?_children_call (parent : String) (call : i.value.bare.kind = "call_expression") :
    (i.callee = none ∧ (treeNode o parent i.value.bare).children.head? = none) ∨
      ∃ callee parent', i.callee = some callee ∧
        (treeNode o parent i.value.bare).children.head? = some (treeNode o parent' callee.bare) := by
  have noHoles : allowsHoles i.value.bare.kind = false := by rw [call]; rfl
  have named := i.textsNamed call
  have first := i.isCallee call
  rw [treeNode_of_inner (by rw [call]; rfl), Node.children, childSlots,
    if_neg (Bool.eq_false_iff.mp noHoles)]
  cases h : i.callee with
  | none =>
    rw [h, Option.map_none] at first
    rw [partSlots_of_find?_none named first]
    exact .inl ⟨rfl, rfl⟩
  | some callee =>
    rw [h, Option.map_some] at first
    obtain ⟨rest, slots⟩ := exists_partSlots_of_find? named first (callee.enclosed.outer callee.noText)
    obtain ⟨parent', here⟩ := callee.treeSlots_listed o i.value.bare.kind
    refine .inr ⟨callee, parent', rfl, ?_⟩
    rw [slots, here, List.singleton_append,
      Node.present_of_not_blank (callee.isBlank_bare o parent'), List.head?_cons]

/-- The node of a value calls `require` just when the value is such a call. -/
lemma callsRequire_iff (parent : String) :
    (treeNode o parent i.value.bare).callsRequire ↔ i.Requires o.source := by
  rw [Node.callsRequire_iff, i.value.kind_bare_eq_call_iff]
  refine and_congr_right fun call => ?_
  rcases i.head?_children_call (o := o) parent call with ⟨none, head⟩ | ⟨callee, parent', some, head⟩
  · simp [none, head]
  · simp [some, head, treeNode_names_iff]

end Initialiser

/-- The kinds of what a declarator declares. -/
def bindingKinds : List String :=
  ["identifier", "object_pattern", "array_pattern"]

/-- A declarator, taken apart: what it declares, perhaps the type of that, perhaps a value. -/
structure Declarator where
  tree : Tree
  binding : Tree
  ascription : Option Tree
  value : Option Initialiser
  isDeclarator : tree.kind = "variable_declarator"
  isBinding : binding.kind ∈ bindingKinds
  isAscription : ∀ t ∈ ascription, t.kind = "type_annotation"
  ofDeclarator : tree.Holds
    (binding :: (ascription.toList ++ value.toList.map fun i => i.value.listed))

namespace Declarator

variable {o : Origin} (d : Declarator)

/-- The node of a declarator is a declarator. -/
lemma kind_treeNode (parent : String) : (treeNode o parent d.tree).kind = .variableDeclarator :=
  kind_treeNode_of_eq d.isDeclarator rfl (by decide)

/-- Below a declarator there is what it declares, then its type, and then its value. -/
lemma children_treeNode (parent : String) :
    (treeNode o parent d.tree).children =
      (d.binding :: d.ascription.toList).map (treeNode o d.tree.kind) ++
        Node.present (d.value.toList.flatMap fun i => treeSlots o d.tree.kind i.value.listed) := by
  have inner : (isName d.tree.kind || isLiteral d.tree.kind) = false := by rw [d.isDeclarator]; rfl
  have noHoles : allowsHoles d.tree.kind = false := by rw [d.isDeclarator]; rfl
  have alone : ∀ t ∈ d.binding :: d.ascription.toList, StandsAlone t.kind := by
    have all : ∀ kind ∈ "type_annotation" :: bindingKinds, StandsAlone kind := by decide
    intro t ht
    apply all
    rcases List.mem_cons.mp ht with rfl | ht
    · exact List.mem_cons_of_mem _ d.isBinding
    · rw [d.isAscription t (Option.mem_toList.mp ht)]
      exact List.mem_cons_self
  have parts : d.tree.Holds ((d.binding :: d.ascription.toList) ++
      d.value.toList.map fun i => i.value.listed) := d.ofDeclarator
  rw [parts.children_treeNode inner noHoles alone, List.flatMap_map]

/-- The initial value of a declarator is its value, or else its type. -/
lemma initialValue_cases (parent : String) :
    (d.value = none ∧ (treeNode o parent d.tree).initialValue? =
      d.ascription.map (treeNode o d.tree.kind)) ∨
    ∃ i parent', d.value = some i ∧
      (treeNode o parent d.tree).initialValue? = some (treeNode o parent' i.value.bare) := by
  rw [Node.initialValue?, d.children_treeNode, List.map_cons, List.cons_append,
    List.drop_one, List.tail_cons]
  cases d.value with
  | none =>
    refine .inl ⟨rfl, ?_⟩
    rw [Option.toList_none, List.flatMap_nil, Node.present_nil, List.append_nil]
    cases d.ascription with
    | none => rfl
    | some t => rfl
  | some i =>
    obtain ⟨parent', slots⟩ := i.value.treeSlots_listed o d.tree.kind
    refine .inr ⟨i, parent', rfl, ?_⟩
    rw [Option.toList_some, List.flatMap_singleton, slots,
      Node.present_of_not_blank (i.value.isBlank_bare o parent'), Node.present_nil,
      List.getLast?_concat]

/-- The type of a declarator is taken for a value where there is none, but it is no call. -/
lemma callsRequire_ascription {t : Tree} (ht : t ∈ d.ascription) (parent : String) :
    (treeNode o parent t).callsRequire = false := by
  have kind : (treeNode o parent t).kind = .other "TypeAnnotation" :=
    kind_treeNode_of_eq (d.isAscription t ht) rfl (by decide)
  simp [Node.callsRequire, kind]

/-- The initial value found for a declarator calls `require` just when its value does. -/
lemma initialValue_callsRequire_iff (parent : String) :
    (treeNode o parent d.tree).initialValue?.any Node.callsRequire ↔
      ∃ i ∈ d.value, i.Requires o.source := by
  rcases d.initialValue_cases (o := o) parent with ⟨none, e⟩ | ⟨i, parent', some, e⟩
  · rw [e, none]
    cases h : d.ascription with
    | none => simp
    | some t => simp [d.callsRequire_ascription h]
  · rw [e, some, Option.any_some, i.callsRequire_iff]
    simp

end Declarator

/-- A declaration, taken apart into its declarators. -/
structure Declaration where
  tree : Tree
  declarators : List Declarator
  isDeclaration : tree.named ∧
    (tree.kind = "lexical_declaration" ∨ tree.kind = "variable_declaration")
  ofDeclaration : tree.Holds (declarators.map Declarator.tree)

namespace Declaration

variable {o : Origin} (d : Declaration)

/-- What the two kinds of declarations have in common. -/
lemma kind_plain : isDropped d.tree.kind = false ∧ isTransparent d.tree.kind = false ∧
    (isName d.tree.kind || isLiteral d.tree.kind) = false ∧ allowsHoles d.tree.kind = false := by
  rcases d.isDeclaration.2 with lexical | variable_
  · rw [lexical]
    decide
  · rw [variable_]
    decide

/-- The node of a declaration is a declaration. -/
lemma kind_treeNode (parent : String) : (treeNode o parent d.tree).kind = .variableDeclaration := by
  rcases d.isDeclaration.2 with lexical | variable_
  · exact kind_treeNode_of_eq lexical rfl (by decide)
  · exact kind_treeNode_of_eq variable_ rfl (by decide)

/-- Below a declaration there are its declarators, comments between them or not. -/
lemma children_treeNode (parent : String) :
    (treeNode o parent d.tree).children =
      d.declarators.map fun declarator => treeNode o d.tree.kind declarator.tree := by
  have alone : ∀ t ∈ d.declarators.map Declarator.tree, StandsAlone t.kind := by
    intro t ht
    obtain ⟨declarator, -, rfl⟩ := List.mem_map.mp ht
    rw [declarator.isDeclarator]
    decide
  have parts : d.tree.Holds (d.declarators.map Declarator.tree ++ []) := by
    rw [List.append_nil]
    exact d.ofDeclaration
  rw [parts.children_treeNode d.kind_plain.2.2.1 d.kind_plain.2.2.2 alone, List.flatMap_nil,
    Node.present_nil, List.append_nil, List.map_map]
  rfl

end Declaration

/-- A declaration becomes one node, which is never a loader call. It counts as one that requires a
module exactly when some declarator has a value that is a call of something with the name `require`,
whatever parentheses the value and the callee stand in. -/
theorem declaration_idioms (o : Origin) (d : Declaration) (parent : String) :
    ∃ n, treeSlots o parent d.tree = [some n] ∧
      Node.usesLoader [n] = false ∧
      (Node.usesRequire [n] ↔
        ∃ declarator ∈ d.declarators, ∃ i ∈ declarator.value, i.Requires o.source) := by
  have kept : d.tree.isKept := by
    rw [Tree.isKept, d.isDeclaration.1, d.kind_plain.1]
    rfl
  have kind := d.kind_treeNode (o := o) parent
  refine ⟨_, treeSlots_of_solid kept d.kind_plain.2.1, ?_, ?_⟩
  · rw [Node.usesLoader, List.any_cons, List.any_nil, Bool.or_false,
      Node.isLoaderCall_of_declaration kind]
  · rw [Node.usesRequire, List.any_cons, List.any_nil, Bool.or_false,
      Node.requiresModule_of_declaration kind, d.children_treeNode, List.any_map, List.any_eq_true]
    refine exists_congr fun declarator => and_congr_right fun _ => ?_
    rw [Function.comp_apply, declarator.kind_treeNode, decide_eq_true rfl, Bool.true_and,
      declarator.initialValue_callsRequire_iff]

/-- The declaration `let a: T, [b] = (/**/(require)('x'));`. -/
def typedAndRequired : Declaration :=
  let name : Tree := .onFirstRow "identifier" true 4 5 []
  let ascription : Tree := .onFirstRow "type_annotation" true 5 8 [
    .onFirstRow ":" false 5 6 [], .onFirstRow "type_identifier" true 7 8 []]
  let typed : Tree := .onFirstRow "variable_declarator" true 4 8 [name, ascription]
  let pattern : Tree := .onFirstRow "array_pattern" true 10 13 [
    .onFirstRow "[" false 10 11 [], .onFirstRow "identifier" true 11 12 [],
    .onFirstRow "]" false 12 13 []]
  let callee : Tree := .onFirstRow "identifier" true 22 29 []
  let listedCallee : Tree := .onFirstRow "parenthesized_expression" true 21 30 [
    .onFirstRow "(" false 21 22 [], callee, .onFirstRow ")" false 29 30 []]
  let arguments : Tree := .onFirstRow "arguments" true 30 35 [
    .onFirstRow "(" false 30 31 [],
    .onFirstRow "string" true 31 34 [
      .onFirstRow "'" false 31 32 [], .onFirstRow "string_fragment" true 32 33 [],
      .onFirstRow "'" false 33 34 []],
    .onFirstRow ")" false 34 35 []]
  let call : Tree := .onFirstRow "call_expression" true 21 35 [listedCallee, arguments]
  let value : Tree := .onFirstRow "parenthesized_expression" true 16 36 [
    .onFirstRow "(" false 16 17 [], .onFirstRow "comment" true 17 21 [], call,
    .onFirstRow ")" false 35 36 []]
  let required : Tree := .onFirstRow "variable_declarator" true 10 36 [
    pattern, .onFirstRow "=" false 14 15 [], value]
  let initialiser : Initialiser := {
    value := {
      listed := value, bare := call, kept := rfl
      enclosed := .parentheses rfl ⟨rfl, by decide⟩ .bare
      alone := by decide, noText := rfl, reserved := fun _ => rfl }
    callee := some {
      listed := listedCallee, bare := callee, kept := rfl
      enclosed := .parentheses rfl ⟨rfl, by decide⟩ .bare
      alone := by decide, noText := rfl, reserved := by decide }
    isCallee := fun _ => rfl
    textsNamed := by decide }
  { tree := .onFirstRow "lexical_declaration" true 0 37 [
      .onFirstRow "let" false 0 3 [], typed, .onFirstRow "," false 8 9 [], required,
      .onFirstRow ";" false 36 37 []]
    declarators := [
      { tree := typed, binding := name, ascription := some ascription, value := none
        isDeclarator := rfl, isBinding := by decide
        isAscription := by
          rintro _ ⟨⟩
          rfl
        ofDeclarator := ⟨rfl, by decide⟩ },
      { tree := required, binding := pattern, ascription := none, value := some initialiser
        isDeclarator := rfl, isBinding := by decide, isAscription := nofun
        ofDeclarator := ⟨rfl, by decide⟩ }]
    isDeclaration := ⟨rfl, .inl rfl⟩
    ofDeclaration := ⟨rfl, by decide⟩ }

/-- The call is found in its parentheses, with the callee in its own, behind a declarator without a
value. -/
theorem declaration_idioms_typedAndRequired :
    ∃ n, treeSlots ⟨"a.ts", "let a: T, [b] = (/**/(require)('x'));"⟩ "program"
        typedAndRequired.tree = [some n] ∧
      Node.usesLoader [n] = false ∧ Node.usesRequire [n] := by
  obtain ⟨n, slots, loader, requires⟩ := declaration_idioms
    ⟨"a.ts", "let a: T, [b] = (/**/(require)('x'));"⟩ typedAndRequired "program"
  refine ⟨n, slots, loader, requires.mpr ?_⟩
  exact ⟨_, .tail _ (.head _), _, rfl, rfl, _, rfl, rfl, by decide +kernel⟩

end Cst

end CodeClones
