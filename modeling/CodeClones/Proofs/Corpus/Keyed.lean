import CodeClones.Corpus
import Mathlib.Data.List.Induction
import Mathlib.Data.List.Nodup

/-!
# Lists with one entry per key

The two stores of a corpus are lists that are searched by name. A new entry takes the place of the
one with its key, or goes to the end: this is `put`, and both `Corpus.putFile` and `Snapshot.put` are
instances of it. The main statement, `put_current`, says what a whole history of entries leaves
behind: one entry per key, the last one that came, at the place where the key came first.
-/

namespace CodeClones.Keyed

variable {α β κ : Type} [DecidableEq κ]

/-- Puts an entry in the place of the one with its key, or at the end. -/
def put (key : α → κ) (entry : α) : List α → List α
  | [] => [entry]
  | other :: rest => if key other = key entry then entry :: rest else other :: put key entry rest

/-- The keys of a history, each at the place where it comes first. -/
def firstKeys (key : α → κ) (history : List α) : List κ :=
  (history.map key).eraseDups

/-- The last entry of a history with the given key. -/
def latest? (key : α → κ) (history : List α) (k : κ) : Option α :=
  history.reverse.find? fun entry => key entry = k

/-- What a history leaves: the last entry of every key, in the order of first arrival. -/
def current (key : α → κ) (history : List α) : List α :=
  (firstKeys key history).filterMap (latest? key history)

variable {key : α → κ}

/-- An entry with a key from before adds no key. -/
lemma firstKeys_append_of_mem {history : List α} {entry : α}
    (h : key entry ∈ firstKeys key history) :
    firstKeys key (history ++ [entry]) = firstKeys key history := by
  have h' : (history.map key).elem (key entry) = true :=
    List.elem_iff.mpr (List.mem_eraseDups.mp h)
  simp only [firstKeys, List.map_append, List.map_cons, List.map_nil, List.eraseDups_append,
    List.removeAll, List.filter_cons, h', List.filter_nil, Bool.not_true, Bool.false_eq_true,
    ↓reduceIte, List.eraseDups_nil, List.append_nil]

/-- An entry with a new key adds the key at the end. -/
lemma firstKeys_append_of_not_mem {history : List α} {entry : α}
    (h : key entry ∉ firstKeys key history) :
    firstKeys key (history ++ [entry]) = firstKeys key history ++ [key entry] := by
  have h' : (history.map key).elem (key entry) = false := by
    rw [← Bool.not_eq_true, List.elem_iff]
    exact fun m => h (List.mem_eraseDups.mpr m)
  simp only [firstKeys, List.map_append, List.map_cons, List.map_nil, List.eraseDups_append,
    List.removeAll, List.filter_cons, h', List.filter_nil, Bool.not_false, ↓reduceIte,
    List.eraseDups_cons, List.eraseDups_nil]

/-- No key is there twice. -/
lemma nodup_firstKeys (history : List α) : (firstKeys key history).Nodup := by
  -- from the end of the history, where it grows
  induction history using List.reverseRecOn with
  | nil => exact List.nodup_nil
  | append_singleton history entry ih =>
    by_cases h : key entry ∈ firstKeys key history
    · rw [firstKeys_append_of_mem h]
      exact ih
    · rw [firstKeys_append_of_not_mem h]
      exact List.nodup_append'.mpr ⟨ih, List.nodup_singleton _, by simpa using h⟩

/-- The latest entry of a key is the last of all, or the latest among those before it. -/
lemma latest?_append (history : List α) (entry : α) (k : κ) :
    latest? key (history ++ [entry]) k =
      if key entry = k then some entry else latest? key history k := by
  by_cases h : key entry = k <;> simp [latest?, h]

/-- The latest entry of a key has that key. -/
lemma key_of_latest? {history : List α} {k : κ} {entry : α}
    (h : latest? key history k = some entry) : key entry = k := by
  simpa using List.find?_some h

/-- There is a latest entry just for the keys that occur. -/
lemma isSome_latest?_iff {history : List α} {k : κ} :
    (latest? key history k).isSome ↔ k ∈ firstKeys key history := by
  simp [latest?, firstKeys, List.mem_eraseDups, List.find?_isSome]

/-- The entries that count have the keys that occur, in the order of their first occurrence. -/
lemma map_key_current (history : List α) :
    (current key history).map key = firstKeys key history := by
  rw [current, List.map_filterMap]
  calc
    (firstKeys key history).filterMap (fun k => (latest? key history k).map key)
      = (firstKeys key history).filterMap some := by
        apply List.filterMap_congr
        intro k hk
        obtain ⟨entry, he⟩ := Option.isSome_iff_exists.mp (isSome_latest?_iff.mpr hk)
        rw [he, Option.map_some, key_of_latest? he]
    _ = firstKeys key history := List.filterMap_some

/-- A search by key finds the latest entry. -/
lemma find?_current (history : List α) (k : κ) :
    (current key history).find? (fun entry => key entry = k) = latest? key history k := by
  cases h : latest? key history k with
  | none =>
    rw [List.find?_eq_none]
    intro entry he
    obtain ⟨k', _, he⟩ := List.mem_filterMap.mp he
    have hk := key_of_latest? he
    intro e
    have e : key entry = k := of_decide_eq_true e
    rw [show k' = k from hk.symm.trans e, h] at he
    cases he
  | some entry =>
    have hk := key_of_latest? h
    have mem : entry ∈ current key history :=
      List.mem_filterMap.mpr ⟨k, isSome_latest?_iff.mp (by rw [h]; rfl), h⟩
    -- the keys differ from each other, so the first entry with the key is the only one
    have nodup : ((current key history).map key).Nodup := by
      rw [map_key_current]
      exact nodup_firstKeys history
    have isSome : ((current key history).find? fun entry => key entry = k).isSome :=
      List.find?_isSome.mpr ⟨entry, mem, decide_eq_true hk⟩
    obtain ⟨found, hf⟩ := Option.isSome_iff_exists.mp isSome
    have hk' : key found = k := by simpa using List.find?_some hf
    have e : key found = key entry := hk'.trans hk.symm
    rw [hf, List.inj_on_of_nodup_map nodup (List.mem_of_find?_eq_some hf) mem e]

/-- An entry with a new key is put at the end. -/
lemma put_of_not_mem {entry : α} {entries : List α} (h : key entry ∉ entries.map key) :
    put key entry entries = entries ++ [entry] := by
  induction entries with
  | nil => rfl
  | cons other rest ih =>
    rw [List.map_cons, List.mem_cons, not_or] at h
    rw [put, if_neg (Ne.symm h.1), ih h.2, List.cons_append]

/-- An entry with a known key takes the place of the one that stands for it. -/
lemma put_filterMap {f g : κ → Option α} {entry : α}
    (hf : ∀ {k other}, f k = some other → key other = k)
    (hg : ∀ k, g k = if key entry = k then some entry else f k)
    {keys : List κ} (nodup : keys.Nodup) (mem : key entry ∈ keys)
    (present : (f (key entry)).isSome) :
    put key entry (keys.filterMap f) = keys.filterMap g := by
  induction keys with
  | nil => cases mem
  | cons k keys ih =>
    obtain ⟨hk, nodup⟩ := List.nodup_cons.mp nodup
    by_cases e : key entry = k
    · subst e
      -- the keys behind differ from this one, so `f` and `g` agree on them
      obtain ⟨other, ho⟩ := Option.isSome_iff_exists.mp present
      have here : g (key entry) = some entry := by rw [hg, if_pos rfl]
      have same : keys.filterMap g = keys.filterMap f := by
        apply List.filterMap_congr
        intro k' hk'
        have ne : key entry ≠ k' := fun e => hk (e ▸ hk')
        rw [hg, if_neg ne]
      rw [List.filterMap_cons_some ho, put, if_pos (hf ho), List.filterMap_cons_some here, same]
    · have mem : key entry ∈ keys := (List.mem_cons.mp mem).resolve_left e
      have here : g k = f k := by rw [hg, if_neg e]
      cases ho : f k with
      | none =>
        rw [List.filterMap_cons_none ho, List.filterMap_cons_none (here.trans ho), ih nodup mem]
      | some other =>
        have ne : key other ≠ key entry := fun e' => e (e'.symm.trans (hf ho))
        rw [List.filterMap_cons_some ho, List.filterMap_cons_some (here.trans ho), put, if_neg ne,
          ih nodup mem]

/-- Putting an entry is what one more entry in the history amounts to. -/
theorem put_current (history : List α) (entry : α) :
    put key entry (current key history) = current key (history ++ [entry]) := by
  by_cases h : key entry ∈ firstKeys key history
  · rw [current, current, firstKeys_append_of_mem h]
    exact put_filterMap key_of_latest? (latest?_append history entry) (nodup_firstKeys history) h
      (isSome_latest?_iff.mpr h)
  · have same : (firstKeys key history).filterMap (latest? key (history ++ [entry])) =
        current key history := by
      apply List.filterMap_congr
      intro k hk
      have ne : key entry ≠ k := fun e => h (e ▸ hk)
      rw [latest?_append, if_neg ne]
    have last : latest? key (history ++ [entry]) (key entry) = some entry := by
      rw [latest?_append, if_pos rfl]
    calc
      put key entry (current key history)
        = current key history ++ [entry] := put_of_not_mem (by rwa [map_key_current])
      _ = (firstKeys key history ++ [key entry]).filterMap (latest? key (history ++ [entry])) := by
        rw [List.filterMap_append, same, List.filterMap_cons_some last, List.filterMap_nil]
      _ = current key (history ++ [entry]) := by rw [current, firstKeys_append_of_not_mem h]

example : current Prod.fst [("a", 1), ("b", 2), ("a", 3)] = [("a", 3), ("b", 2)] := by
  decide

/-- What is left of a history can be told before or after its entries are changed. -/
lemma current_map (g : β → α) (history : List β) :
    current key (history.map g) = (current (key ∘ g) history).map g := by
  have latest : ∀ k, latest? key (history.map g) k = (latest? (key ∘ g) history k).map g := by
    intro k
    rw [latest?, ← List.map_reverse, List.find?_map]
    rfl
  have keys : firstKeys key (history.map g) = firstKeys (key ∘ g) history := by
    rw [firstKeys, firstKeys, List.map_map]
  rw [current, current, keys, List.map_filterMap]
  exact congrArg (List.filterMap · _) (funext latest)

/-- A store that keeps only a part of the entries of a history, but their keys, is kept in step by
putting the part of each new entry. -/
lemma put_map_current (g : β → α) (history : List β) (entry : β) :
    put key (g entry) ((current (key ∘ g) history).map g) =
      (current (key ∘ g) (history ++ [entry])).map g := by
  rw [← current_map, put_current, ← current_map, List.map_append, List.map_singleton]

/-- Putting an entry in replaces the first one with its key, or comes at the end. -/
lemma put_eq_set (entry : α) (entries : List α) :
    put key entry entries =
      match entries.findIdx? (fun other => key other = key entry) with
      | none => entries ++ [entry]
      | some index => entries.set index entry := by
  induction entries with
  | nil => rfl
  | cons other rest ih =>
    by_cases e : key other = key entry
    · rw [put, if_pos e, List.findIdx?_cons, if_pos (decide_eq_true e)]
      rfl
    · rw [put, if_neg e, ih, List.findIdx?_cons, if_neg (by simpa using e)]
      cases rest.findIdx? fun other => key other = key entry with
      | none => rfl
      | some index => rfl

end CodeClones.Keyed

namespace CodeClones

/-- Taking an entry out of a list that has just grown puts the new entry into its place. -/
lemma Corpus.swapRemove_append {α : Type} {index : Nat} {entries : List α} (entry : α)
    (h : index < entries.length) :
    swapRemove index (entries ++ [entry]) = entries.set index entry := by
  rw [swapRemove, List.getLast?_concat]
  show ((entries ++ [entry]).set index entry).dropLast = _
  rw [List.set_append_left _ _ h, List.dropLast_concat]

/-- The files of a corpus are kept by name. -/
lemma Corpus.putFile_eq_put (file : SourceFile) (files : List SourceFile) :
    putFile file files = Keyed.put SourceFile.filename file files := by
  have same : files.findIdx? (·.filename == file.filename) =
      files.findIdx? fun other => other.filename = file.filename := rfl
  rw [Keyed.put_eq_set, putFile, same]
  cases h : files.findIdx? fun other => other.filename = file.filename with
  | none => rfl
  | some index => exact swapRemove_append file (List.findIdx?_eq_some_iff_getElem.mp h).1

/-- A snapshot takes in lines as a keyed list takes in an entry. -/
lemma Snapshot.put_eq_put (name : String) (lines : List String)
    (files : List (String × List String)) :
    put name lines files = Keyed.put Prod.fst (name, lines) files := by
  induction files with
  | nil => rfl
  | cons other rest ih =>
    obtain ⟨other, others⟩ := other
    by_cases e : other = name
    · rw [put, if_pos e, Keyed.put, if_pos e, e]
    · rw [put, if_neg e, Keyed.put, if_neg e, ih]

end CodeClones
