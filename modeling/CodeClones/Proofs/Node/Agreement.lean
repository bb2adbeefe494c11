import CodeClones.Node.Agreement
import CodeClones.Proofs.Node.Shape
import CodeClones.Proofs.Number.Double
import Mathlib.Data.List.Perm.Subperm
import Mathlib.Data.List.Pairwise

/-!
# Agreement is pairwise

A group agrees when all its items equal the first one. The equality of values is symmetric and transitive,
though not reflexive, and that is enough for any two items to agree (`allAgree_iff`). So agreement is a
relation between the nodes of a group two at a time (`kindsAgree_iff`, `namesAgree_iff`, `valuesAgree_iff`), and
as such it passes to any other order and to a part of the group: `agree_iff_pairwise`.
-/

namespace CodeClones

/-- Equality of values that may be absent. Numbers are compared as numbers, and all else as it is. -/
inductive Literal.Agree : Option Literal → Option Literal → Prop where
  | absent : Agree none none
  | number {x y} :
    x.Equal y →
    Agree (some (.number x)) (some (.number y))
  | other {v} :
    (∀ x, v ≠ .number x) →
    Agree (some v) (some v)

namespace Literal

variable {v w u : Option Literal}

/-- Agreement goes both ways. -/
lemma Agree.symm (h : Agree v w) : Agree w v := by
  cases h with
  | absent => exact .absent
  | number equal => exact .number equal.symm
  | other noNumber => exact .other noNumber

/-- Values that agree with the same value agree with each other. -/
lemma Agree.trans (h : Agree v w) (h' : Agree w u) : Agree v u := by
  cases h with
  | absent => exact h'
  | number equal =>
    cases h' with
    | number equal' => exact .number (equal.trans equal')
    | other noNumber => exact absurd rfl (noNumber _)
  | other noNumber => exact h'

/-- Literals that are taken for the same agree. -/
lemma agree_of_same {v w : Literal} (h : v.same w) : Agree (some v) (some w) := by
  unfold same at h
  split at h
  case h_2 x y => exact .number ((Double.same_iff x y).mp h)
  case h_4 => exact .other nofun
  case h_8 => cases h
  all_goals
    cases eq_of_beq h
    exact .other nofun

/-- Values are taken for the same just when they agree. -/
lemma sameOption_iff : sameOption v w ↔ Agree v w := by
  constructor
  · intro h
    unfold sameOption at h
    split at h
    · exact .absent
    · exact agree_of_same h
    · cases h
  · intro h
    cases h with
    | absent => rfl
    | number equal => exact (Double.same_iff _ _).mpr equal
    | @other v noNumber =>
      cases v with
      | number x => exact absurd rfl (noNumber x)
      | null => rfl
      | _ => exact beq_self_eq_true _

end Literal

namespace Node

section Lists

variable {α : Type}

/-- Where sameness is symmetric and transitive, comparing with the first compares all pairs. -/
lemma allAgree_iff {same : α → α → Bool} {R : α → α → Prop} (means : ∀ x y, same x y ↔ R x y)
    (symm : ∀ {x y}, R x y → R y x) (trans : ∀ {x y z}, R x y → R y z → R x z) (items : List α) :
    allAgree same items ↔ items.Pairwise R := by
  cases items with
  | nil => exact iff_of_true rfl .nil
  | cons first rest =>
    rw [allAgree, List.all_eq_true, List.pairwise_cons]
    simp only [means]
    constructor
    · intro h
      refine ⟨fun item mem => symm (h item mem), ?_⟩
      exact List.pairwise_of_forall_mem_list fun x hx y hy => trans (h x hx) (symm (h y hy))
    · rintro ⟨h, -⟩ item mem
      exact symm (h item mem)

/-- Items agree under equality just when any two of them are equal. -/
lemma allAgree_beq_iff [BEq α] [LawfulBEq α] (items : List α) :
    allAgree (· == ·) items ↔ items.Pairwise (· = ·) := by
  apply allAgree_iff
  · exact fun _ _ => beq_iff_eq
  · exact Eq.symm
  · exact Eq.trans

variable {R : α → α → Prop} (symm : ∀ {x y}, R x y → R y x) {items : List α}
include symm

/-- What is so for items at any two different places is so for every pair. -/
lemma pairwise_iff_positions :
    items.Pairwise R ↔ ∀ i j : Nat, i ≠ j → ∀ x ∈ items[i]?, ∀ y ∈ items[j]?, R x y := by
  rw [List.pairwise_iff_getElem]
  constructor
  · intro h i j apart x hx y hy
    obtain ⟨hi, rfl⟩ := List.getElem?_eq_some_iff.mp hx
    obtain ⟨hj, rfl⟩ := List.getElem?_eq_some_iff.mp hy
    rcases Nat.lt_or_gt_of_ne apart with before | behind
    · exact h i j hi hj before
    · exact symm (h j i hj hi behind)
  · intro h i j hi hj before
    exact h i j (Nat.ne_of_lt before) _ (List.getElem?_eq_getElem hi) _ (List.getElem?_eq_getElem hj)

/-- What is so for every pair of items is so for every pair of some of them in any order. -/
lemma pairwise_of_subperm {part : List α} (sub : part.Subperm items) (h : items.Pairwise R) :
    part.Pairwise R := by
  obtain ⟨sorted, perm, sublist⟩ := sub
  exact (perm.pairwise_iff symm).mp (h.sublist sublist)

end Lists

section Groups

variable {group : List Node}

/-- The kinds of a group agree just when any two of its nodes have the same kind. -/
lemma kindsAgree_iff : kindsAgree group ↔ group.Pairwise fun m n => m.kind = n.kind := by
  rw [kindsAgree, allAgree_beq_iff, List.pairwise_map]

/-- The names of a group agree just when any two of its nodes have the same name. -/
lemma namesAgree_iff : namesAgree group ↔ group.Pairwise fun m n => m.name = n.name := by
  rw [namesAgree, allAgree_beq_iff, List.pairwise_map]

/-- The values of two nodes agree if both nodes are compared by value. -/
def ValuesMatch (m n : Node) : Prop :=
  m.kind.carriesValue → n.kind.carriesValue → Literal.Agree m.value n.value

/-- Matching goes both ways. -/
lemma ValuesMatch.symm {m n : Node} (h : m.ValuesMatch n) : n.ValuesMatch m :=
  fun hn hm => (h hm hn).symm

/-- The values of a group agree just when those of any two of its nodes match. -/
lemma valuesAgree_iff : valuesAgree group ↔ group.Pairwise ValuesMatch := by
  have agree := allAgree_iff (fun v w => Literal.sameOption_iff (v := v) (w := w))
    Literal.Agree.symm Literal.Agree.trans
  rw [valuesAgree, agree, List.pairwise_map, List.pairwise_filter]
  rfl

/-- Any two nodes agree in something just when all nodes agree in it with all. -/
lemma pairwise_iff_members {α : Type} {f : Node → α} :
    group.Pairwise (fun m n => f m = f n) ↔ ∀ m ∈ group, ∀ n ∈ group, f m = f n := by
  constructor
  · intro h
    have symm : Std.Symm fun m n => f m = f n := ⟨fun _ _ => Eq.symm⟩
    exact h.forall_of_forall fun _ _ => rfl
  · exact List.pairwise_of_forall_mem_list

/-- What a group agrees on, any part of it agrees on. -/
lemma agree_of_subperm {part : List Node} (sub : part.Subperm group) :
    (kindsAgree group → kindsAgree part) ∧ (namesAgree group → namesAgree part) ∧
      (valuesAgree group → valuesAgree part) := by
  simp only [kindsAgree_iff, namesAgree_iff, valuesAgree_iff]
  refine ⟨?_, ?_, ?_⟩
  · exact pairwise_of_subperm Eq.symm sub
  · exact pairwise_of_subperm Eq.symm sub
  · exact pairwise_of_subperm ValuesMatch.symm sub

/-- The order of a group makes no difference. -/
lemma agree_of_perm {group' : List Node} (perm : group'.Perm group) :
    kindsAgree group' = kindsAgree group ∧ namesAgree group' = namesAgree group ∧
      valuesAgree group' = valuesAgree group := by
  obtain ⟨kinds, names, values⟩ := agree_of_subperm perm.subperm
  obtain ⟨kinds', names', values'⟩ := agree_of_subperm perm.symm.subperm
  refine ⟨?_, ?_, ?_⟩
  · exact Bool.eq_iff_iff.mpr ⟨kinds', kinds⟩
  · exact Bool.eq_iff_iff.mpr ⟨names', names⟩
  · exact Bool.eq_iff_iff.mpr ⟨values', values⟩

end Groups

/-- Kinds agree just if any two nodes have the same tag, names just if any two have the same name or none, and
values just if any two nodes at different positions that are compared by value have the same value; zero is
the same with either sign, and what is no number differs from everything. So the order of the nodes does not
matter, what a group agrees on any part of it agrees on, and nodes that are not compared by value can be put in
or left out with no difference to the values. -/
theorem agree_iff_pairwise (group : List Node) (canonical : ∀ n ∈ group, n.kind.Canonical) :
    (kindsAgree group ↔ ∀ m ∈ group, ∀ n ∈ group, m.kind.tag = n.kind.tag) ∧
    (namesAgree group ↔ ∀ m ∈ group, ∀ n ∈ group, m.name = n.name) ∧
    (valuesAgree group ↔ ∀ i j : Nat, i ≠ j → ∀ m ∈ group[i]?, ∀ n ∈ group[j]?,
      m.kind.carriesValue → n.kind.carriesValue → Literal.Agree m.value n.value) ∧
    (∀ group', group'.Perm group →
      kindsAgree group' = kindsAgree group ∧ namesAgree group' = namesAgree group ∧
        valuesAgree group' = valuesAgree group) ∧
    (∀ part, part.Subperm group →
      (kindsAgree group → kindsAgree part) ∧ (namesAgree group → namesAgree part) ∧
        (valuesAgree group → valuesAgree part)) ∧
    (∀ group', group'.filter (·.kind.carriesValue) = group.filter (·.kind.carriesValue) →
      valuesAgree group' = valuesAgree group) ∧
    (∀ x y : Double, x.isZero → y.isZero →
      Literal.Agree (some (.number x)) (some (.number y))) ∧
    ∀ (x : Double) (v : Option Literal), x.isNaN → ¬ Literal.Agree (some (.number x)) v := by
  refine ⟨?_, ?_, ?_, fun _ => agree_of_perm, fun _ => agree_of_subperm, ?_, ?_, ?_⟩
  · rw [kindsAgree_iff, pairwise_iff_members]
    constructor
    · intro same m hm n hn
      rw [same m hm n hn]
    · intro same m hm n hn
      exact ((canonical m hm).eq_iff (canonical n hn)).mpr (same m hm n hn)
  · rw [namesAgree_iff, pairwise_iff_members]
  · rw [valuesAgree_iff, pairwise_iff_positions ValuesMatch.symm]
    rfl
  · intro group' same
    rw [valuesAgree, same, valuesAgree]
  · exact fun x y zero zero' => .number (.of_isZero zero zero')
  · intro x v isNaN agree
    cases agree with
    | number equal => exact absurd isNaN (by simp [equal.isNaN_left])
    | other noNumber => exact noNumber x rfl

/-- Zeros of both signs beside a name, one of them left out, and a literal alone that is no number. -/
theorem agree_iff_pairwise_numbers :
    let number (x : Double) : Node := ⟨.literal, none, some (.number x), default, []⟩
    let name : Node := ⟨.identifier, some "a", none, default, []⟩
    valuesAgree [number (.zero false), name, number (.zero true)] ∧
      valuesAgree [number (.zero true), number (.zero false)] ∧
      valuesAgree [number (.nan false), name] ∧
      ¬ valuesAgree [number (.nan false), name, number (.nan false)] := by
  intro number name
  have canonical : ∀ group : List Node, (group.all fun n => !n.kind.isOther) →
      ∀ n ∈ group, n.kind.Canonical := by
    intro group own n mem
    exact Kind.canonical_of_own (by simpa using List.all_eq_true.mp own n mem)
  have zeros := agree_iff_pairwise [number (.zero false), name, number (.zero true)]
    (canonical _ (by decide))
  have alone := agree_iff_pairwise [number (.nan false)] (canonical _ (by decide))
  have twice := agree_iff_pairwise [number (.nan false), name, number (.nan false)]
    (canonical _ (by decide))
  have agree : valuesAgree [number (.zero false), name, number (.zero true)] := by decide
  have part : [number (.zero true), number (.zero false)].Subperm
      [number (.zero false), name, number (.zero true)] :=
    ⟨_, .swap _ _ _, ((List.Sublist.refl [number (.zero true)]).cons name).cons_cons _⟩
  refine ⟨agree, (zeros.2.2.2.2.1 _ part).2.2 agree, ?_, ?_⟩
  · rw [alone.2.2.2.2.2.1 [number (.nan false), name] rfl]
    decide
  · intro h
    have same := twice.2.2.1.mp h 0 2 (by decide) _ rfl _ rfl rfl rfl
    exact twice.2.2.2.2.2.2.2 _ _ (by decide) same

end Node

end CodeClones
