import CodeClones.Clone.Snapshot
import CodeClones.Source.Fault
import Mathlib.Data.List.DropRight
import Mathlib.Data.List.Induction
import Mathlib.Tactic.Lemma
import Mathlib.Tactic.SplitIfs

/-!
# The line that an excerpt quotes

The excerpt of a fault counts the parts of a source between its line feeds, and a snapshot counts its lines.
The two give each line the same number and, up to carriage returns at its end, the same text; the only part
that is no line is an empty one behind the last line feed (`map_dropReturns_pieces`). An excerpt is empty or
quotes one line (`Quotes`, `context_cases`), and the snapshot tells which: `context_numbered`.
-/

namespace CodeClones

/-! ### Two ways to number lines -/

namespace Text

/-- A text whose last part has nothing in it. -/
def EndsOpen (text : String) : Prop :=
  text = "" ∨ text.toList.getLast? = some '\n'

instance (text : String) : Decidable (EndsOpen text) :=
  inferInstanceAs (Decidable (text = "" ∨ text.toList.getLast? = some '\n'))

/-- The lines of a text are its parts, without the last one if nothing is in it. -/
lemma linesOfPieces_concat (front : List (List Char)) (last : List Char) :
    linesOfPieces (front ++ [last]) = front.map dropReturn ++ if last.isEmpty then [] else [last] := by
  induction front with
  | nil => rfl
  | cons part front ih =>
    obtain ⟨next, rest, e⟩ : ∃ next rest, front ++ [last] = next :: rest :=
      List.exists_cons_of_ne_nil (List.append_ne_nil_of_right_ne_nil front (List.cons_ne_nil last []))
    rw [List.cons_append, List.map_cons, List.cons_append, ← ih, e, linesOfPieces]
    exact List.cons_ne_nil next rest

/-- A text has a last part, which is empty just when the text ends open. -/
lemma exists_last_part (text : String) :
    ∃ front last, text.toList.splitOn '\n' = front ++ [last] ∧ (last = [] ↔ EndsOpen text) := by
  have empty : text = "" ↔ text.toList = [] := String.toList_eq_nil_iff.symm
  rw [EndsOpen, empty]
  generalize text.toList = chars
  by_cases feed : '\n' ∈ chars
  · -- cut at the last line feed
    obtain ⟨last, front, e, fresh⟩ := List.eq_append_cons_of_mem (List.mem_reverse.mpr feed)
    have cut : chars = front.reverse ++ '\n' :: last.reverse := by
      rw [← List.reverse_reverse chars, e]
      simp
    refine ⟨front.reverse.splitOn '\n', last.reverse, ?_, ?_⟩
    · have whole : last.reverse.splitOn '\n' = [last.reverse] :=
        List.splitOn_eq_singleton fun mem => fresh (List.mem_reverse.mp mem)
      rw [cut, List.splitOn_append_cons_self, whole]
    · rw [cut]
      cases last with
      | nil => simp
      | cons c last =>
        have other : c ≠ '\n' := fun h => fresh (h ▸ List.mem_cons_self)
        rw [List.reverse_cons, ← List.cons_append, ← List.append_assoc, List.getLast?_concat]
        simp [other]
  · refine ⟨[], chars, List.splitOn_eq_singleton feed, .inl, ?_⟩
    rintro (empty | ends)
    · exact empty
    · exact absurd (List.mem_of_getLast? ends) feed

end Text

namespace Fault

open Text (EndsOpen)

/-- All carriage returns at the end are dropped. -/
lemma dropReturns_eq (line : String) :
    dropReturns line = .ofList (line.toList.rdropWhile (· == '\r')) := rfl

/-- Dropping one carriage return first makes no difference where all at the end are dropped. -/
lemma dropReturns_dropReturn (part : List Char) :
    dropReturns (.ofList (Text.dropReturn part)) = dropReturns (.ofList part) := by
  rw [dropReturns_eq, dropReturns_eq, String.toList_ofList, String.toList_ofList]
  congr 1
  induction part using List.reverseRecOn with
  | nil => rfl
  | append_singleton front c _ =>
    rw [Text.dropReturn, List.getLast?_concat]
    split_ifs with h
    · cases h
      rw [List.dropLast_concat, List.rdropWhile_concat_pos _ _ _ rfl]
    · rfl

/-- The parts of a source are its lines with the same numbers, and an empty part behind them where the
source ends open. -/
lemma map_dropReturns_pieces (source : String) :
    (Text.pieces source).map dropReturns =
      (Text.lines source).map dropReturns ++ if EndsOpen source then [""] else [] := by
  obtain ⟨front, last, parts, ends⟩ := Text.exists_last_part source
  have front_eq : (front.map Text.dropReturn).map (fun part => dropReturns (.ofList part)) =
      front.map fun part => dropReturns (.ofList part) := by
    rw [List.map_map]
    exact List.map_congr_left fun part _ => dropReturns_dropReturn part
  simp only [Text.pieces, Text.lines, parts, Text.linesOfPieces_concat, ← ends, List.map_map,
    Function.comp_def, List.map_append] at front_eq ⊢
  rw [front_eq]
  cases last with
  | nil =>
    have empty : dropReturns (.ofList []) = "" := rfl
    simp [empty]
  | cons c last => simp

/-! ### The form of an excerpt -/

/-- An excerpt that quotes a line: a line feed, the line, another line feed, and a caret behind some
spaces. -/
structure Quotes (excerpt line : String) (indent : Nat) : Prop where
  form : excerpt = "\n" ++ line ++ "\n" ++ .ofList (List.replicate indent ' ') ++ "^"
  oneLine : '\n' ∉ line.toList
  trimmed : line.toList.getLast? ≠ some '\r'

/-- An excerpt falls into nothing, the line that it quotes, and the line of the caret. -/
lemma Quotes.pieces_eq {excerpt line : String} {indent : Nat} (h : Quotes excerpt line indent) :
    Text.pieces excerpt = ["", line, .ofList (List.replicate indent ' ' ++ ['^'])] := by
  have joined : excerpt =
      Text.joinPieces ["", line, .ofList (List.replicate indent ' ' ++ ['^'])] := by
    apply String.toList_injective
    simp [h.form, Text.joinPieces]
  rw [joined]
  apply Text.pieces_joinPieces (List.cons_ne_nil _ _)
  intro part mem
  simp only [List.mem_cons, List.not_mem_nil, or_false] at mem
  rcases mem with rfl | rfl | rfl
  · exact List.not_mem_nil
  · exact h.oneLine
  · simp

/-- An excerpt quotes one line only. -/
lemma Quotes.unique {excerpt line line' : String} {indent indent' : Nat}
    (h : Quotes excerpt line indent) (h' : Quotes excerpt line' indent') : line = line' := by
  have same := h.pieces_eq.symm.trans h'.pieces_eq
  exact (List.cons.inj (List.cons.inj same).2).1

/-- A line between line feeds, and a caret below it, are an excerpt that quotes it. -/
lemma quotes_dropReturns {part : String} (oneLine : '\n' ∉ part.toList) (indent : Nat) :
    Quotes ("\n" ++ dropReturns part ++ "\n" ++ .ofList (List.replicate indent ' ') ++ "^")
      (dropReturns part) indent := by
  refine ⟨rfl, ?_, ?_⟩
  · rw [dropReturns_eq, String.toList_ofList]
    exact fun mem => oneLine ((List.rdropWhile_prefix _ _).subset mem)
  · rw [dropReturns_eq, String.toList_ofList]
    intro last
    have nonempty : part.toList.rdropWhile (· == '\r') ≠ [] := by
      intro empty
      rw [empty] at last
      cases last
    rw [List.getLast?_eq_some_getLast nonempty, Option.some_inj] at last
    exact List.rdropWhile_last_not _ _ nonempty (beq_iff_eq.mpr last)

variable {fault : Fault} {position : Position} {source : String} {columnLimit : UInt32}

section Below

variable (known : fault.position = some position) (below : position.column < columnLimit)
include known below

/-- A fault below the last line is shown without an excerpt. -/
lemma context_eq_empty (h : (Text.pieces source)[position.line.toNat - 1]? = none) :
    fault.context source columnLimit = "" := by
  simp only [context, known, if_neg (UInt32.not_le.mpr below), h]

/-- A fault on a line of the source is shown with an excerpt that quotes the line. -/
lemma quotes_context {part : String}
    (h : (Text.pieces source)[position.line.toNat - 1]? = some part) :
    Quotes (fault.context source columnLimit) (dropReturns part) position.column.toNat := by
  simp only [context, known, if_neg (UInt32.not_le.mpr below), h]
  exact quotes_dropReturns (Text.not_mem_of_mem_pieces (List.mem_of_getElem? h)) _

/-- What an excerpt quotes is the line of the fault. -/
lemma quotes_context_iff {quoted : String} :
    (∃ indent, Quotes (fault.context source columnLimit) quoted indent) ↔
      ((Text.pieces source).map dropReturns)[position.line.toNat - 1]? = some quoted := by
  rw [List.getElem?_map]
  cases h : (Text.pieces source)[position.line.toNat - 1]? with
  | none =>
    rw [context_eq_empty known below h, Option.map_none]
    constructor
    · rintro ⟨indent, quotes⟩
      exact absurd quotes.pieces_eq (by simp [Text.pieces])
    · intro same
      cases same
  | some part =>
    have quotes := quotes_context known below h
    rw [Option.map_some, Option.some_inj]
    constructor
    · rintro ⟨indent, quotes'⟩
      exact quotes.unique quotes'
    · rintro rfl
      exact ⟨_, quotes⟩

end Below

/-- There is no excerpt, or one that quotes some line. -/
lemma context_cases (fault : Fault) (source : String) (columnLimit : UInt32) :
    fault.context source columnLimit = "" ∨
      ∃ quoted indent, Quotes (fault.context source columnLimit) quoted indent := by
  cases known : fault.position with
  | none => exact .inl (by simp only [context, known])
  | some position =>
    by_cases below : position.column < columnLimit
    · cases h : (Text.pieces source)[position.line.toNat - 1]? with
      | none => exact .inl (context_eq_empty known below h)
      | some part => exact .inr ⟨_, _, quotes_context known below h⟩
    · exact .inl (by simp only [context, known, if_pos (UInt32.not_lt.mp below)])

/-- The lines of a file that was put in as a whole text. -/
lemma get?_insertText (files : Snapshot) (name text : String) :
    (files.insertText name text).get? name = some (Text.lines text) := by
  show (Snapshot.put name (Text.lines text) files.files).lookup name = some (Text.lines text)
  induction files.files with
  | nil => simp [Snapshot.put]
  | cons file rest ih =>
    obtain ⟨other, others⟩ := file
    rw [Snapshot.put]
    split_ifs with same
    · cases same
      exact List.lookup_cons_self
    · have differs : (name == other) = false := beq_eq_false_iff_ne.mpr (Ne.symm same)
      rw [List.lookup_cons, differs]
      exact ih

/-- An item of a longer list is one of the shorter list, or the one at the end. -/
lemma getElem?_concat_eq_some_iff {α : Type} {items : List α} {last item : α} {n : Nat} :
    (items ++ [last])[n]? = some item ↔ items[n]? = some item ∨ n = items.length ∧ last = item := by
  rcases Nat.lt_trichotomy n items.length with before | rfl | behind
  · rw [List.getElem?_append_left before]
    exact (or_iff_left fun last => Nat.ne_of_lt before last.1).symm
  · rw [List.getElem?_concat_length, List.getElem?_eq_none (Nat.le_refl _)]
    simp
  · have length : (items ++ [last]).length ≤ n := by
      rw [List.length_append]
      exact behind
    rw [List.getElem?_eq_none length, List.getElem?_eq_none (Nat.le_of_lt behind)]
    exact (or_iff_left fun last => Nat.ne_of_gt behind last.1).symm

/-- With a position in sight of the limit, an excerpt quotes the line that a file with the same text has
under the number of the position, without the carriage returns at its end. Behind the lines of the file it
quotes nothing but an empty line, and that only right behind them and where the text ends open. Whatever the
fault, an excerpt is empty or quotes a line. -/
theorem context_numbered (files : Snapshot) (name source : String) :
    ∃ stored, (files.insertText name source).get? name = some stored ∧
      (∀ (fault : Fault) (position : Position) (columnLimit : UInt32),
        fault.position = some position → 0 < position.line → position.column < columnLimit →
        ∀ quoted,
          (∃ indent, Quotes (fault.context source columnLimit) quoted indent) ↔
            (∃ line, stored[position.line.toNat - 1]? = some line ∧ dropReturns line = quoted) ∨
            position.line.toNat = stored.length + 1 ∧ EndsOpen source ∧ quoted = "") ∧
      ∀ (fault : Fault) (columnLimit : UInt32),
        fault.context source columnLimit = "" ∨
          ∃ quoted indent, Quotes (fault.context source columnLimit) quoted indent := by
  refine ⟨Text.lines source, get?_insertText files name source, ?_, fun fault => context_cases fault source⟩
  intro fault position columnLimit known counted below quoted
  have number : position.line.toNat = (Text.lines source).length + 1 ↔
      position.line.toNat - 1 = (Text.lines source).length := by
    have positive : 0 < position.line.toNat := counted
    omega
  rw [quotes_context_iff known below, map_dropReturns_pieces, ← Option.map_eq_some_iff,
    ← List.getElem?_map, number]
  split_ifs with ends
  · rw [getElem?_concat_eq_some_iff, List.length_map]
    simp only [ends, true_and, eq_comm]
  · simp only [ends, false_and, and_false, or_false, List.append_nil]

/-- Lines that end with several carriage returns, and the empty line behind the last one. -/
theorem context_numbered_returns :
    let excerpt line := context ⟨"unexpected token", some ⟨line, 1⟩⟩ "a\r\nb\r\r\n" 2
    (∃ indent, Quotes (excerpt 2) "b" indent) ∧ (∃ indent, Quotes (excerpt 3) "" indent) ∧
      ¬ ∃ quoted indent, Quotes (excerpt 4) quoted indent := by
  intro excerpt
  obtain ⟨stored, given, quotes, -⟩ := context_numbered .empty "a.js" "a\r\nb\r\r\n"
  have lines : stored = ["a", "b\r"] := by
    have computed : (Snapshot.empty.insertText "a.js" "a\r\nb\r\r\n").get? "a.js" = some ["a", "b\r"] := by
      decide +kernel
    exact Option.some.inj (given.symm.trans computed)
  subst lines
  refine ⟨?_, ?_, ?_⟩
  · exact (quotes _ ⟨2, 1⟩ 2 rfl (by decide) (by decide) "b").mpr (.inl ⟨"b\r", rfl, by decide +kernel⟩)
  · exact (quotes _ ⟨3, 1⟩ 2 rfl (by decide) (by decide) "").mpr (.inr ⟨rfl, by decide +kernel, rfl⟩)
  · rintro ⟨quoted, quoting⟩
    rcases (quotes _ ⟨4, 1⟩ 2 rfl (by decide) (by decide) quoted).mp quoting with ⟨_, line, -⟩ | ⟨number, -⟩
    · cases line
    · exact absurd number (by decide)

end Fault

end CodeClones
