import CodeClones.Node.Basic
import Mathlib.Tactic.Lemma

/-!
# The shape of nodes

Which fields of a node go together. A node that is well shaped has a kind that is the only one with
its tag and at most one of a name, a value and slots; holes are left in arrays and array patterns only.
Kinds made from tags are canonical (`Kind.canonical_ofTag`), and canonical kinds are told apart by
their tags (`Kind.Canonical.eq_iff`).
-/

namespace CodeClones

/-- Whether a kind is the only one with its tag: where a constructor of its own has the tag, the kind
is that constructor. -/
def Kind.Canonical (k : Kind) : Prop :=
  ∀ tag, k = .other tag → ∀ k' : Kind, k'.tag = tag → k'.isOther

namespace Kind

/-- A kind with a constructor of its own is found by its tag. -/
lemma ofTag_tag {k : Kind} (h : k.isOther = false) : ofTag k.tag = k := by
  cases k with
  | other tag => cases h
  | _ => rfl

/-- A kind without one has nothing but its tag. -/
lemma eq_other {k : Kind} (h : k.isOther) : k = other k.tag := by
  cases k with
  | other tag => rfl
  | _ => cases h

/-- A kind with a constructor of its own is the only one with its tag. -/
lemma canonical_of_own {k : Kind} (h : k.isOther = false) : k.Canonical := by
  rintro tag rfl
  cases h

/-- The kind that is found by a tag is the only one with the tag. -/
lemma canonical_ofTag (t : String) : (ofTag t).Canonical := by
  intro tag e k hk
  have same : t = tag := by rw [← tag_ofTag t, e, Kind.tag]
  cases h : k.isOther with
  | true => rfl
  | false =>
    -- a constructor with this tag would have been taken
    have taken : k = other tag := by rw [← ofTag_tag h, hk, ← same, e, same]
    rw [taken] at h
    cases h

/-- A kind that is the only one with its tag is found by it. -/
lemma Canonical.ofTag_tag {k : Kind} (h : k.Canonical) : ofTag k.tag = k := by
  cases hk : k.isOther with
  | false => exact Kind.ofTag_tag hk
  | true =>
    have known := h k.tag (eq_other hk) (ofTag k.tag) (tag_ofTag k.tag)
    rw [eq_other known, tag_ofTag, ← eq_other hk]

/-- Of kinds that are the only ones with their tags, the tags tell everything. -/
lemma Canonical.eq_iff {j k : Kind} (hj : j.Canonical) (hk : k.Canonical) :
    j = k ↔ j.tag = k.tag := by
  constructor
  · rintro rfl
    rfl
  · intro h
    rw [← hj.ofTag_tag, h, hk.ofTag_tag]

end Kind

/-- Which fields a node may have beside each other. -/
structure Node.WellShaped (filename : String) (n : Node) : Prop where
  located : n.span.filename = filename
  canonical : n.kind.Canonical
  named : n.name.isSome → n.kind = .identifier ∧ n.value = none ∧ n.slots = []
  valued : n.value.isSome → (n.kind = .literal ∨ n.kind = .jsxText) ∧ n.name = none ∧ n.slots = []
  holed : none ∈ n.slots → n.kind = .arrayExpression ∨ n.kind = .arrayPattern

end CodeClones
