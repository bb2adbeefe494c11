import CodeClones.Proofs.Cst.Exchange
import Mathlib.Data.List.Chain

/-!
# Runs of text parts

Siblings fall into stretches: text parts that stand side by side, and single nodes of other kinds
(`Divides`). The stretches of text are as long as they can be. While the siblings are walked along, a run
of text parts stays open until something else comes, and `childSlots_stretches` says that this gives one
text for every stretch of text parts, and for every other node its own slots, in their order.
-/

namespace CodeClones.Cst

/-- Text parts side by side, or a single node of another kind. -/
inductive Stretch where
  | text (first : Tree) (rest : List Tree) (parts : ∀ t ∈ first :: rest, isTextPart t.kind)
  | other (t : Tree) (noText : isTextPart t.kind = false)

namespace Stretch

def nodes : Stretch → List Tree
  | text first rest _ => first :: rest
  | other t _ => [t]

def isText : Stretch → Bool
  | text _ _ _ => true
  | other _ _ => false

/-- The slots of a stretch. Text parts make one text from the start of the first to the end of the last:
their source, with the character references resolved. -/
def slots (o : Origin) (parent : String) : Stretch → List (Option Node)
  | text first rest _ => [some {
      kind := .jsxText
      name := none
      value := some (.string (String.join ((first :: rest).map fun part =>
        if part.kind = "html_character_reference" then decodeReference (part.text o.source)
        else part.text o.source)))
      span := ⟨o.filename, first.start.position,
        ((first :: rest).getLast (List.cons_ne_nil first rest)).stop.position⟩
      slots := [] }]
  | other t _ => treeSlots o parent t

/-- The slots of a stretch of text are those of the run of its parts. -/
lemma slots_text (o : Origin) (parent : String) {first : Tree} {rest : List Tree}
    (parts : ∀ t ∈ first :: rest, isTextPart t.kind) :
    (text first rest parts).slots o parent = o.textRun (first :: rest) := rfl

end Stretch

/-- Stretches that siblings fall into, no two of text side by side. -/
structure Divides (stretches : List Stretch) (children : List Tree) : Prop where
  whole : stretches.flatMap Stretch.nodes = children
  maximal : stretches.IsChain fun a b => ¬ (a.isText ∧ b.isText)

/-- Siblings can always be divided: a text part joins the stretch behind it if that is one of text. -/
lemma exists_divides (children : List Tree) : ∃ stretches, Divides stretches children := by
  induction children with
  | nil => exact ⟨[], rfl, .nil⟩
  | cons t children ih =>
    obtain ⟨stretches, rfl, maximal⟩ := ih
    cases part : isTextPart t.kind with
    | false =>
      refine ⟨.other t part :: stretches, rfl, List.isChain_cons.mpr ⟨?_, maximal⟩⟩
      exact fun _ _ both => Bool.false_ne_true both.1
    | true =>
      have alone : ∀ s ∈ [t], isTextPart s.kind := by simpa using part
      cases stretches with
      | nil => exact ⟨[.text t [] alone], rfl, .singleton _⟩
      | cons next stretches =>
        cases next with
        | other s noText =>
          refine ⟨.text t [] alone :: .other s noText :: stretches, rfl, ?_⟩
          refine List.isChain_cons_cons.mpr ⟨?_, maximal⟩
          exact fun both => Bool.false_ne_true both.2
        | text first rest parts =>
          have joined : ∀ s ∈ t :: first :: rest, isTextPart s.kind :=
            List.forall_mem_cons.mpr ⟨part, parts⟩
          refine ⟨.text t (first :: rest) joined :: stretches, rfl, ?_⟩
          exact List.isChain_cons.mpr (List.isChain_cons.mp maximal)

section Walk

variable {o : Origin} {parent : String}

/-- Text parts go on with the run before them. -/
lemma partSlots_texts {parts : List Tree} (texts : ∀ t ∈ parts, isTextPart t.kind)
    (run rest : List Tree) :
    partSlots o parent run (parts ++ rest) = partSlots o parent (run ++ parts) rest := by
  induction parts generalizing run with
  | nil => rw [List.nil_append, List.append_nil]
  | cons t parts ih =>
    rw [List.cons_append, partSlots, if_pos (texts t List.mem_cons_self),
      ih fun s hs => texts s (List.mem_cons_of_mem t hs), List.append_assoc, List.singleton_append]

/-- A node of another kind has the slots it would have alone. -/
lemma partSlots_other {t : Tree} (noText : isTextPart t.kind = false) (rest : List Tree) :
    partSlots o parent [] (t :: rest) = treeSlots o parent t ++ partSlots o parent [] rest := by
  rw [partSlots, if_neg (Bool.eq_false_iff.mp noText), textRun_nil, List.nil_append]

/-- What follows a stretch of text starts with no text part. -/
lemma startsWithText_eq_false {stretches : List Stretch}
    (h : ∀ next ∈ stretches.head?, next.isText = false) :
    startsWithText (stretches.flatMap Stretch.nodes) = false := by
  cases stretches with
  | nil => rfl
  | cons next stretches =>
    cases next with
    | text first rest parts => cases h _ rfl
    | other t noText => exact noText

/-- The slots of siblings are those of the stretches they fall into. -/
lemma Divides.partSlots_eq {stretches : List Stretch} {children : List Tree}
    (h : Divides stretches children) :
    partSlots o parent [] children = stretches.flatMap (Stretch.slots o parent) := by
  obtain ⟨rfl, maximal⟩ := h
  induction stretches with
  | nil => rfl
  | cons stretch stretches ih =>
    obtain ⟨apart, maximal⟩ := List.isChain_cons.mp maximal
    rw [List.flatMap_cons, List.flatMap_cons, ← ih maximal]
    cases stretch with
    | other t noText => exact partSlots_other noText _
    | text first rest parts =>
      -- the run ends here, since the next stretch is no text
      have ends : startsWithText (stretches.flatMap Stretch.nodes) = false :=
        startsWithText_eq_false fun next hn => by simpa [Stretch.isText] using apart next hn
      rw [Stretch.nodes, partSlots_texts parts, List.nil_append, partSlots_flush (.inr ends),
        Stretch.slots_text]

end Walk

/-- The siblings below a node that is no list with holes can be divided into stretches, and their slots are
those of the stretches, one after the other. -/
theorem childSlots_stretches (o : Origin) {kind : String} (noHoles : allowsHoles kind = false)
    (children : List Tree) :
    (∃ stretches, Divides stretches children) ∧
      ∀ stretches, Divides stretches children →
        childSlots o kind children = stretches.flatMap (Stretch.slots o kind) := by
  refine ⟨exists_divides children, ?_⟩
  intro stretches h
  rw [childSlots, if_neg (Bool.eq_false_iff.mp noHoles), h.partSlots_eq]

/-- The stretches of `<a>b&lt;{c}&#33;</a>` between the tags: a text of two parts, an expression, and a
text of one part. -/
def mixedStretches : List Stretch :=
  [.text (.onFirstRow "jsx_text" true 3 4 [])
      [.onFirstRow "html_character_reference" true 4 8 []] (by decide),
    .other (.onFirstRow "jsx_expression" true 8 11 [
      .onFirstRow "\x7b" false 8 9 [], .onFirstRow "identifier" true 9 10 [],
      .onFirstRow "\x7d" false 10 11 []]) (by decide),
    .text (.onFirstRow "html_character_reference" true 11 16 []) [] (by decide)]

/-- Three slots, the first of which is the text of two parts with its reference resolved. -/
theorem childSlots_stretches_mixed :
    let o : Origin := ⟨"a.js", "<a>b&lt;\x7bc\x7d&#33;</a>"⟩
    let children := mixedStretches.flatMap Stretch.nodes
    Divides mixedStretches children ∧
      (childSlots o "jsx_element" children).map (fun slot => slot.bind Node.value) =
        [some (.string "b<"), none, some (.string "!")] := by
  intro o children
  have divides : Divides mixedStretches children := ⟨rfl, by decide⟩
  refine ⟨divides, ?_⟩
  rw [(childSlots_stretches o rfl children).2 mixedStretches divides]
  decide +kernel

end CodeClones.Cst
