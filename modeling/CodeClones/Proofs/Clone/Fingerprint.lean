import CodeClones.Clone.Fingerprint
import CodeClones.Proofs.Number.Digits
import CodeClones.Proofs.Text.Bytes
import Mathlib.Data.List.Forall2

/-!
# What a fingerprint tells

The fingerprint of a list of groups depends on the tokens of its nodes in order and on nothing else. As long
as no token is empty or holds a colon, the text of the tokens gives them back (`intercalate_injective`), and
digests are told apart by their digits (`Sha1.State.hex_injective`). So two lists of groups with the same
fingerprint have the same tokens, or else two different texts with one digest have been found:
`fingerprint_tokens`.
-/

namespace CodeClones

namespace Sha1

/-- The eight digits of a word denote the word. -/
lemma ofDigits_wordHex (w : UInt32) : Numeral.ofDigits 16 (wordHex w) = w.toNat := by
  rw [wordHex, Numeral.ofDigits_zeros, Numeral.ofDigits_toDigits (by decide) (by decide)]

/-- A word is written with eight digits. -/
lemma length_wordHex (w : UInt32) : (wordHex w).length = 8 := by
  have short : (Nat.toDigits 16 w.toNat).length ≤ 8 :=
    (Nat.length_toDigits_le_iff (by decide) (by decide)).mpr w.toNat_lt
  rw [wordHex, List.length_append, List.length_replicate, Nat.sub_add_cancel short]

/-- Only no words at all are written with no digits. -/
lemma eq_nil_of_flatMap_wordHex {words : List UInt32} (h : words.flatMap wordHex = []) :
    words = [] := by
  cases words with
  | nil => rfl
  | cons w words =>
    have digits := List.flatMap_eq_nil_iff.mp h w List.mem_cons_self
    have length := length_wordHex w
    rw [digits] at length
    cases length

/-- Words one after the other can be told from their digits. -/
lemma flatMap_wordHex_injective : Function.Injective (List.flatMap wordHex) := by
  intro words words' same
  induction words generalizing words' with
  | nil => exact (eq_nil_of_flatMap_wordHex same.symm).symm
  | cons v words ih =>
    cases words' with
    | nil => exact eq_nil_of_flatMap_wordHex same
    | cons w words' =>
      have lengths : (wordHex v).length = (wordHex w).length := by rw [length_wordHex, length_wordHex]
      obtain ⟨digits, rest⟩ := List.append_inj same lengths
      have word : v = w := by
        apply UInt32.toNat_inj.mp
        rw [← ofDigits_wordHex, digits, ofDigits_wordHex]
      rw [word, ih rest]

/-- A state can be told from its digits. -/
lemma State.hex_injective : Function.Injective State.hex := by
  intro s t same
  have words := flatMap_wordHex_injective (String.ofList_injective same)
  cases s
  cases t
  simpa using words

end Sha1

/-! ### The text of the tokens -/

/-- The bytes whose digest is the fingerprint. -/
def hashed (groups : List (List Node)) : List UInt8 :=
  (tokenStream groups).toUTF8.toList

/-- What a node has to contribute to the text: its name, or the tag of its kind in place of a name that is
absent or empty. -/
inductive Node.Contributes : Node → String → Prop where
  | name {n : Node} {name : String} :
    n.name = some name →
    name ≠ "" →
    Contributes n name
  | tag {n : Node} :
    n.name = none ∨ n.name = some "" →
    Contributes n n.kind.tag

/-- A token by which the text of the tokens can be taken apart. -/
def IsSeparable (token : String) : Prop :=
  token ≠ "" ∧ ':' ∉ token.toList

instance : DecidablePred IsSeparable := fun token =>
  inferInstanceAs (Decidable (token ≠ "" ∧ ':' ∉ token.toList))

/-- The text of separable tokens, taken apart at the colons. -/
lemma splitOn_tokens {ts : List String} (some_token : ts ≠ []) (h : ∀ t ∈ ts, IsSeparable t) :
    (tokenSeparator.intercalate ts).toList.splitOn ':' = ts.map String.toList :=
  Text.splitOn_intercalate rfl some_token fun t mem => (h t mem).2

/-- Without a token there is no text, which is the text of an empty token only. -/
lemma eq_nil_of_intercalate {ts : List String} (h : ∀ t ∈ ts, IsSeparable t)
    (empty : tokenSeparator.intercalate ts = "") : ts = [] := by
  by_contra some_token
  have split := splitOn_tokens some_token h
  rw [empty, String.toList_empty, List.splitOn_nil] at split
  obtain ⟨t, ts, rfl⟩ := List.exists_cons_of_ne_nil some_token
  have first := (List.cons.inj split).1
  exact (h t List.mem_cons_self).1 (String.toList_eq_nil_iff.mp first.symm)

/-- Tokens with nothing of the separator in them can be told from the joined text. -/
lemma intercalate_injective {ts ts' : List String} (h : ∀ t ∈ ts, IsSeparable t)
    (h' : ∀ t ∈ ts', IsSeparable t)
    (same : tokenSeparator.intercalate ts = tokenSeparator.intercalate ts') : ts = ts' := by
  by_cases empty : ts = []
  · rw [empty] at same ⊢
    exact (eq_nil_of_intercalate h' same.symm).symm
  · by_cases empty' : ts' = []
    · rw [empty'] at same ⊢
      exact eq_nil_of_intercalate h same
    · apply List.map_injective_iff.mpr fun _ _ => String.toList_injective
      rw [← splitOn_tokens empty h, same, splitOn_tokens empty' h']

/-- What a node contributes to the hashed text is its token. -/
lemma contributes_iff {n : Node} {t : String} : n.Contributes t ↔ n.token = t := by
  rw [Node.token]
  constructor
  · intro h
    cases h with
    | name named nonempty =>
      rw [named]
      exact if_neg (mt String.isEmpty_iff.mp nonempty)
    | tag nameless =>
      rcases nameless with none | empty
      · rw [none]
      · rw [empty]
        rfl
  · rintro rfl
    split
    · next name named =>
      split_ifs with empty
      · exact .tag (.inr (String.isEmpty_iff.mp empty ▸ named))
      · exact .name named (mt String.isEmpty_iff.mpr empty)
    · next nameless => exact .tag (.inl nameless)

section Groups

variable {groups groups' : List (List Node)}

/-- The contributions of the nodes, in order, are the tokens of the groups. -/
lemma forall₂_contributes_iff {ts : List String} :
    List.Forall₂ Node.Contributes groups.flatten ts ↔ tokens groups = ts := by
  have one : Node.Contributes = fun n t => n.token = t := by
    funext n t
    exact propext contributes_iff
  rw [one, tokens, ← List.forall₂_eq_eq_eq, List.forall₂_map_left_iff]

/-- Two fingerprints are equal just when the digests are. -/
lemma fingerprint_eq_iff :
    fingerprint groups = fingerprint groups' ↔
      Sha1.digest (hashed groups) = Sha1.digest (hashed groups') :=
  Sha1.State.hex_injective.eq_iff

/-- Two hashed inputs are equal just when the joined tokens are. -/
lemma hashed_eq_iff : hashed groups = hashed groups' ↔ tokenStream groups = tokenStream groups' :=
  Text.toList_toUTF8_inj

/-- Where no token has anything of the separator in it, equal joined texts have equal tokens. -/
lemma tokenStream_eq_iff (h : ∀ t ∈ tokens groups, IsSeparable t)
    (h' : ∀ t ∈ tokens groups', IsSeparable t) :
    tokenStream groups = tokenStream groups' ↔ tokens groups = tokens groups' :=
  ⟨intercalate_injective h h', congrArg _⟩

end Groups

/-- The fingerprint is made from the tokens of all nodes in order, each of them a name that is not empty or
the tag of a kind. Where no token is empty or holds a colon, the text of the tokens tells them, and so does the
fingerprint, as long as no two texts with one digest turn up. -/
theorem fingerprint_tokens (groups groups' : List (List Node)) :
    (∀ ts, List.Forall₂ Node.Contributes groups.flatten ts ↔ tokens groups = ts) ∧
    (tokens groups = tokens groups' → fingerprint groups = fingerprint groups') ∧
    ((∀ t ∈ tokens groups, IsSeparable t) → (∀ t ∈ tokens groups', IsSeparable t) →
      (tokenStream groups = tokenStream groups' ↔ tokens groups = tokens groups') ∧
      (fingerprint groups = fingerprint groups' ↔
        tokens groups = tokens groups' ∨
          hashed groups ≠ hashed groups' ∧
            Sha1.digest (hashed groups) = Sha1.digest (hashed groups'))) := by
  refine ⟨fun ts => forall₂_contributes_iff, ?_, ?_⟩
  · intro same
    rw [fingerprint, fingerprint, tokenStream, tokenStream, same]
  · intro h h'
    have texts := tokenStream_eq_iff h h'
    refine ⟨texts, ?_⟩
    rw [fingerprint_eq_iff, ← texts, ← hashed_eq_iff]
    constructor
    · intro same
      by_cases equal : hashed groups = hashed groups'
      · exact .inl equal
      · exact .inr ⟨equal, same⟩
    · rintro (equal | ⟨-, same⟩)
      · rw [equal]
      · exact same

/-- The same tokens in other groups, of nodes elsewhere and with other children, and in another order. -/
theorem fingerprint_tokens_regrouped :
    let name : Node := ⟨.identifier, some "a", none, default, []⟩
    let call : Node := ⟨.callExpression, some "", some .null, ⟨"b.js", ⟨3, 0⟩, ⟨4, 1⟩⟩, [some name]⟩
    let bare : Node := ⟨.callExpression, none, none, default, []⟩
    fingerprint [[name, call]] = fingerprint [[name], [], [bare]] ∧
      tokenStream [[name, call]] ≠ tokenStream [[call], [name]] := by
  intro name call bare
  constructor
  · exact (fingerprint_tokens _ _).2.1 (by decide)
  · obtain ⟨texts, -⟩ := (fingerprint_tokens [[name, call]] [[call], [name]]).2.2 (by decide) (by decide)
    exact mt texts.mp (by decide)

-- A colon in a name reads like the one between two names.
example :
    let name (text : String) : Node := ⟨.identifier, some text, none, default, []⟩
    tokenStream [[name "a:b"]] = tokenStream [[name "a", name "b"]] := by decide

end CodeClones
