import CodeClones.Json.Decode
import CodeClones.Proofs.Json.Spelling

/-!
# Reading what is spelled

A value is spelled by its tokens, each written in any way and with blanks around it
(`Reading.Spelled`); a text is JSON when it spells a value. The machine that takes one token at a time
has put a value where it belongs as soon as it has taken its tokens, whatever containers were open
before (`State.takes_of_isIntact`). So a text that spells a value is read as that value and nothing else
(`Document.read_of_spelled`).
-/

namespace CodeClones.Json

namespace Reading

mutual

/-- The tokens of a value that was read to its end. -/
def tokens : Reading → List Token
  | null => [.null]
  | bool b => [.bool b]
  | number n => [.number n]
  | string content => [.string content]
  | array items _ => .openBracket :: (itemsTokens items ++ [.closeBracket])
  | object members _ => .openBrace :: (membersTokens members ++ [.closeBrace])
  | broken => [.junk]

/-- The tokens of an array's items, with commas between them. -/
def itemsTokens : List Reading → List Token
  | [] => []
  | [item] => tokens item
  | item :: rest => tokens item ++ .comma :: itemsTokens rest

/-- The tokens of an object's members, with commas between them. -/
def membersTokens : List (Option String × Reading) → List Token
  | [] => []
  | [(key, value)] => .string key :: .colon :: tokens value
  | (key, value) :: rest => .string key :: .colon :: (tokens value ++ .comma :: membersTokens rest)

end

/-- Whether a text is a value as JSON: the tokens of the value, each in any spelling. -/
def Spelled (r : Reading) (text : String) : Prop :=
  r.isIntact ∧ Spaced r.tokens text.toList

/-- The values in a container. -/
def parts : Reading → List Reading
  | array items _ => items
  | object members _ => members.map Prod.snd
  | _ => []

/-- What holds of a value whenever it holds of the values in it holds of every value. -/
@[elab_as_elim]
theorem induct {P : Reading → Prop} (step : ∀ r : Reading, (∀ part ∈ r.parts, P part) → P r)
    (r : Reading) : P r :=
  step r fun part _ => induct step part
termination_by sizeOf r
decreasing_by
  rename_i h
  cases r with
  | array items closed =>
    have smaller : sizeOf _ < sizeOf items := List.sizeOf_lt_of_mem h
    simp only [array.sizeOf_spec]
    omega
  | object members closed =>
    obtain ⟨⟨key, value⟩, hm, rfl⟩ := List.mem_map.mp h
    have smaller := List.sizeOf_lt_of_mem hm
    simp only [object.sizeOf_spec, Prod.mk.sizeOf_spec] at smaller ⊢
    omega
  | _ => cases h

/-- Items are intact together when each of them is. -/
lemma areIntact_iff {items : List Reading} : areIntact items ↔ ∀ item ∈ items, item.isIntact := by
  induction items with
  | nil => simp [areIntact]
  | cons item rest ih => simp [areIntact, ih]

/-- Members are intact together when the value of each is. -/
lemma membersIntact_iff {members : List (Option String × Reading)} :
    membersIntact members ↔ ∀ member ∈ members, member.2.isIntact := by
  induction members with
  | nil => simp [membersIntact]
  | cons member rest ih =>
    obtain ⟨key, value⟩ := member
    simp [membersIntact, ih]

/-- A container that was read to its end is closed, and so is every value in it. -/
lemma isIntact_part {r : Reading} (h : r.isIntact) : ∀ part ∈ r.parts, part.isIntact := by
  cases r with
  | array items closed =>
    rw [isIntact, Bool.and_eq_true] at h
    exact areIntact_iff.mp h.2
  | object members closed =>
    rw [isIntact, Bool.and_eq_true] at h
    intro part hp
    obtain ⟨member, hm, rfl⟩ := List.mem_map.mp hp
    exact membersIntact_iff.mp h.2 member hm
  | _ => nofun

/-! ### No two numbers side by side -/

/-- Tokens with something other than a number between them stay separate. -/
lemma separate_append {toks toks' : List Token} {token : Token} (mark : token.isNumber = false)
    (h : Separate toks) (h' : Separate toks') : Separate (toks ++ token :: toks') := by
  refine List.isChain_append.mpr ⟨h, List.isChain_cons.mpr ⟨fun _ _ => .inl mark, h'⟩, ?_⟩
  rintro _ _ _ ⟨⟩
  exact .inr mark

/-- A token that is no number can come before any others. -/
lemma separate_cons {toks : List Token} {token : Token} (mark : token.isNumber = false)
    (h : Separate toks) : Separate (token :: toks) :=
  separate_append mark .nil h

/-- The tokens of items are separate, as commas stand between them. -/
lemma separate_items {items : List Reading} (each : ∀ item ∈ items, Separate item.tokens) :
    Separate (itemsTokens items) := by
  induction items with
  | nil => exact .nil
  | cons item rest ih =>
    have first := each item List.mem_cons_self
    have others := ih fun other ho => each other (List.mem_cons_of_mem _ ho)
    cases rest with
    | nil => exact first
    | cons next rest => exact separate_append rfl first others

/-- The tokens of members are separate, as keys and commas stand between their values. -/
lemma separate_members {members : List (Option String × Reading)}
    (each : ∀ member ∈ members, Separate member.2.tokens) : Separate (membersTokens members) := by
  induction members with
  | nil => exact .nil
  | cons member rest ih =>
    have first := each member List.mem_cons_self
    have others := ih fun other ho => each other (List.mem_cons_of_mem _ ho)
    cases rest with
    | nil => exact separate_cons rfl (separate_cons rfl first)
    | cons next rest =>
      exact separate_cons rfl (separate_cons rfl (separate_append rfl first others))

/-- No two numbers are neighbours among the tokens of a value. -/
lemma separate_tokens (r : Reading) : Separate r.tokens := by
  induction r using Reading.induct with
  | step r ih =>
    cases r with
    | array items closed =>
      exact separate_cons rfl (separate_append rfl (separate_items ih) .nil)
    | object members closed =>
      have each : ∀ member ∈ members, Separate member.2.tokens :=
        fun member hm => ih member.2 (List.mem_map_of_mem hm)
      exact separate_cons rfl (separate_append rfl (separate_members each) .nil)
    | _ => exact .singleton _

end Reading

/-! ### The machine on the tokens of a value -/

namespace State

/-- From where a value may start, the tokens of the value lead to where the value is finished. -/
def Takes (value : Reading) : Prop :=
  ∀ stack, value.tokens.foldl step (reading .value stack) = finish value stack

/-- No value starts with a bracket that closes. -/
lemma foldl_tokens_itemOrEnd (value : Reading) (stack : List Frame) :
    value.tokens.foldl step (reading .itemOrEnd stack) =
      value.tokens.foldl step (reading .value stack) := by
  cases value <;> cases stack with
  | nil => rfl
  | cons frame outer => cases frame <;> rfl

/-- The tokens of items lead to where all of them are in the array. -/
lemma foldl_itemsTokens {items : List Reading} (each : ∀ item ∈ items, Takes item)
    (some_item : items ≠ []) (done : List Reading) (stack : List Frame) :
    (Reading.itemsTokens items).foldl step (reading .value (.array done :: stack)) =
      reading .commaOrEnd (.array (items.reverse ++ done) :: stack) := by
  induction items generalizing done with
  | nil => exact absurd rfl some_item
  | cons item rest ih =>
    have first := each item List.mem_cons_self (.array done :: stack)
    cases rest with
    | nil => exact first
    | cons next rest =>
      have others := ih (fun other ho => each other (List.mem_cons_of_mem _ ho))
        (List.cons_ne_nil _ _) (item :: done)
      rw [Reading.itemsTokens, List.foldl_append, first, List.foldl_cons]
      · rw [List.reverse_cons, List.append_assoc]
        exact others
      · exact nofun

/-- The tokens of members lead to where all of them are in the object. -/
lemma foldl_membersTokens {members : List (Option String × Reading)}
    (each : ∀ member ∈ members, Takes member.2) (some_member : members ≠ [])
    (done : List (Option String × Reading)) (stack : List Frame) :
    (Reading.membersTokens members).foldl step (reading .key (.object done none :: stack)) =
      reading .commaOrEnd (.object (members.reverse ++ done) none :: stack) := by
  induction members generalizing done with
  | nil => exact absurd rfl some_member
  | cons member rest ih =>
    obtain ⟨key, value⟩ := member
    have first := each (key, value) List.mem_cons_self (.object done (some key) :: stack)
    have opened : step (step (reading .key (.object done none :: stack)) (.string key)) .colon =
        reading .value (.object done (some key) :: stack) := rfl
    cases rest with
    | nil => exact first
    | cons next rest =>
      have others := ih (fun other ho => each other (List.mem_cons_of_mem _ ho))
        (List.cons_ne_nil _ _) ((key, value) :: done)
      rw [Reading.membersTokens, List.foldl_cons, List.foldl_cons, opened, List.foldl_append, first,
        List.foldl_cons]
      · rw [List.reverse_cons, List.append_assoc]
        exact others
      · exact nofun

/-- The tokens of an array lead to where it is finished when those of its items do. -/
lemma takes_array {items : List Reading} (each : ∀ item ∈ items, Takes item) :
    Takes (.array items true) := by
  intro stack
  rw [Reading.tokens, List.foldl_cons, List.foldl_append]
  cases items with
  | nil => rfl
  | cons item rest =>
    have run := foldl_itemsTokens each (List.cons_ne_nil item rest) [] stack
    have opened : (Reading.itemsTokens (item :: rest)).foldl step
        (step (reading .value stack) .openBracket) =
          (Reading.itemsTokens (item :: rest)).foldl step (reading .value (.array [] :: stack)) := by
      have first := foldl_tokens_itemOrEnd item (.array [] :: stack)
      cases rest with
      | nil => exact first
      | cons next rest =>
        rw [Reading.itemsTokens, List.foldl_append, List.foldl_append, ← first]
        · rfl
        · exact nofun
    rw [opened, run, List.append_nil, List.foldl_cons, List.foldl_nil]
    show finish (.array (item :: rest).reverse.reverse true) stack = _
    rw [List.reverse_reverse]

/-- The tokens of an object lead to where it is finished when those of its values do. -/
lemma takes_object {members : List (Option String × Reading)}
    (each : ∀ member ∈ members, Takes member.2) : Takes (.object members true) := by
  intro stack
  rw [Reading.tokens, List.foldl_cons, List.foldl_append]
  cases members with
  | nil => rfl
  | cons member rest =>
    -- the first token is a key, and a key is taken in the same way as behind a comma
    have run := foldl_membersTokens each (List.cons_ne_nil member rest) [] stack
    have opened : (Reading.membersTokens (member :: rest)).foldl step
        (step (reading .value stack) .openBrace) =
          (Reading.membersTokens (member :: rest)).foldl step
            (reading .key (.object [] none :: stack)) := by
      cases rest <;> rfl
    rw [opened, run, List.append_nil, List.foldl_cons, List.foldl_nil]
    show finish (.object (member :: rest).reverse.reverse true) stack = _
    rw [List.reverse_reverse]

/-- Whatever containers are open, the tokens of a value take the machine to where the value is
finished. -/
lemma takes_of_isIntact {value : Reading} (h : value.isIntact) : Takes value := by
  induction value using Reading.induct with
  | step value ih =>
    have each := fun part hp => ih part hp (Reading.isIntact_part h part hp)
    cases value with
    | array items closed =>
      rw [Reading.isIntact, Bool.and_eq_true] at h
      rw [h.1]
      exact takes_array each
    | object members closed =>
      rw [Reading.isIntact, Bool.and_eq_true] at h
      rw [h.1]
      exact takes_object fun member hm => each member.2 (List.mem_map_of_mem hm)
    | broken => cases h
    | _ => exact fun _ => rfl

end State

/-- A text that spells a value is read as that value and nothing else. -/
theorem Document.read_of_spelled {r : Reading} {text : String} (h : r.Spelled text) :
    Document.read text = ⟨r, true⟩ := by
  have run := State.takes_of_isIntact h.1 []
  rw [Document.read, tokens_of_spaced h.2 r.separate_tokens, State.start, run]
  rfl

/-- What a text that spells a value stands for is what the value stands for. -/
lemma decodeText_of_spelled {α : Type} {decode : Reading → Except Problem α} {r : Reading}
    {text : String} (h : r.Spelled text) : decodeText decode text = decode r := by
  rw [decodeText, Document.read_of_spelled h]
  cases decode r <;> rfl

end CodeClones.Json
