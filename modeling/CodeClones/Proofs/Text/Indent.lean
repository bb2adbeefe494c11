import CodeClones.Text.Indent
import Mathlib.Data.List.Forall2
import Mathlib.Data.List.TakeWhile
import Mathlib.Data.Set.Basic
import Mathlib.Order.Bounds.Defs
import Mathlib.Tactic.Lemma

/-!
# Taking off the shared indentation

A line starts visibly when the character right behind its indentation is there and not blank. Those are the
lines whose smallest indentation is the margin of a text (`isLeast_margin`), and a text that is dedented has
the same lines without that margin (`pieces_dedent`). So what is known of one line (`loses_stripped`,
`stripped_of_lt`) is known of all of them.

`dedent_keeps_lines` says what becomes of the lines of any text and that there is nothing to take off a
second time. `dedent_not_blank` says when the lines that are not blank all lose the smallest indentation
among them: a line that goes on with another blank behind its indentation does not count for the margin.
-/

namespace CodeClones.Text

/-- The number of spaces and tabs in front of a line. -/
def indentation (line : String) : Nat :=
  (line.toList.takeWhile isIndent).length

/-- The character right behind the indentation is not blank. -/
def StartsVisibly (line : String) : Prop :=
  ∃ c ∈ (line.toList.dropWhile isIndent).head?, isBlank c = false

instance : DecidablePred StartsVisibly := fun line =>
  decidable_of_iff ((line.toList.dropWhile isIndent).head?.any (!isBlank ·)) <| by
    simp [StartsVisibly, Option.any_eq_true]

/-- A character of the line is not blank. -/
def NotBlank (line : String) : Prop :=
  ∃ c ∈ line.toList, isBlank c = false

instance : DecidablePred NotBlank := fun line =>
  decidable_of_iff (line.toList.any (!isBlank ·)) <| by simp [NotBlank]

/-- A text of spaces and tabs. -/
def IsLead (lead : String) : Prop :=
  ∀ c ∈ lead.toList, c = ' ' ∨ c = '\t'

instance : DecidablePred IsLead := fun lead =>
  decidable_of_iff (lead.toList.all isIndent) <| by simp [IsLead, isIndent]

/-- `rest` is a line without a number of spaces and tabs in front. -/
def Loses (width : Nat) (line rest : String) : Prop :=
  ∃ lead : String, line = lead ++ rest ∧ lead.length = width ∧ IsLead lead

/-- The indentations of the lines that have a property. -/
def widths (p : String → Prop) (text : String) : Set Nat :=
  {n | ∃ line ∈ pieces text, p line ∧ indentation line = n}

/-- The indentation that is taken off the lines of a text. -/
def margin (text : String) : Nat :=
  sharedIndent (text.toList.splitOn '\n')

/-- A line without a margin. -/
def stripped (width : Nat) (line : String) : String :=
  .ofList (stripIndent width line.toList)

/-! ### One line -/

section Chars

variable {width : Nat} {line : List Char}

/-- What is behind the indentation stays when some of the indentation is taken off. -/
lemma dropWhile_drop (h : width ≤ (line.takeWhile isIndent).length) :
    (line.drop width).dropWhile isIndent = line.dropWhile isIndent := by
  induction line generalizing width with
  | nil => rw [List.drop_nil]
  | cons c line ih =>
    cases width with
    | zero => rfl
    | succ width =>
      by_cases indent : isIndent c
      · rw [List.takeWhile_cons_of_pos indent, List.length_cons] at h
        rw [List.drop_succ_cons, List.dropWhile_cons_of_pos indent]
        exact ih (Nat.le_of_succ_le_succ h)
      · rw [List.takeWhile_cons_of_neg indent] at h
        exact absurd h (Nat.not_succ_le_zero width)

/-- Whatever is taken off within the indentation is spaces and tabs. -/
lemma isIndent_of_mem_take (h : width ≤ (line.takeWhile isIndent).length) :
    ∀ c ∈ line.take width, isIndent c := by
  intro c hc
  have front : line.take width = (line.takeWhile isIndent).take width := by
    calc line.take width = (line.takeWhile isIndent ++ line.dropWhile isIndent).take width := by
          rw [List.takeWhile_append_dropWhile]
      _ = (line.takeWhile isIndent).take width := List.take_append_of_le_length h
  rw [front] at hc
  exact List.mem_takeWhile_imp (List.mem_of_mem_take hc)

/-- As many characters are taken off as asked for, or none where the indentation is shorter. -/
lemma stripIndent_eq :
    stripIndent width line =
      if width ≤ (line.takeWhile isIndent).length then line.drop width else line := by
  have same : width ≤ line.length ∧ (line.take width).all isIndent ↔
      width ≤ (line.takeWhile isIndent).length := by
    constructor
    · rintro ⟨fits, all⟩
      have front : (line.take width ++ line.drop width).takeWhile isIndent =
          line.take width ++ (line.drop width).takeWhile isIndent :=
        List.takeWhile_append_of_pos (List.all_eq_true.mp all)
      rw [List.take_append_drop] at front
      rw [front, List.length_append, List.length_take]
      omega
    · intro h
      refine ⟨h.trans (List.takeWhile_prefix isIndent).length_le, ?_⟩
      exact List.all_eq_true.mpr (isIndent_of_mem_take h)
  simp only [stripIndent, same]

end Chars

section Line

variable {width : Nat} {line : String}

/-- A line that is indented far enough loses just the margin. -/
lemma toList_stripped (h : width ≤ indentation line) :
    (stripped width line).toList = line.toList.drop width := by
  rw [stripped, String.toList_ofList, stripIndent_eq]
  exact if_pos h

/-- A line that is not indented far enough stays as it is. -/
lemma stripped_of_lt (h : indentation line < width) : stripped width line = line := by
  rw [stripped, stripIndent_eq]
  exact (congrArg String.ofList (if_neg (Nat.not_le.mpr h))).trans String.ofList_toList

/-- No margin leaves the line as it is. -/
lemma stripped_zero (line : String) : stripped 0 line = line := by
  apply String.toList_injective
  rw [toList_stripped (Nat.zero_le _), List.drop_zero]

/-- What a line loses is spaces and tabs, as many as the margin has. -/
lemma loses_stripped (h : width ≤ indentation line) : Loses width line (stripped width line) := by
  refine ⟨.ofList (line.toList.take width), ?_, ?_, ?_⟩
  · apply String.toList_injective
    rw [String.toList_append, String.toList_ofList, toList_stripped h, List.take_append_drop]
  · rw [String.length_ofList, List.length_take]
    exact Nat.min_eq_left (h.trans (List.takeWhile_prefix isIndent).length_le)
  · intro c hc
    rw [String.toList_ofList] at hc
    have indent := isIndent_of_mem_take h c hc
    simpa [isIndent] using indent

/-- How much a line has lost can be told from the rest. -/
lemma Loses.unique {width' : Nat} {rest : String} (h : Loses width line rest)
    (h' : Loses width' line rest) : width = width' := by
  obtain ⟨lead, rfl, rfl, -⟩ := h
  obtain ⟨lead', same, rfl, -⟩ := h'
  have lengths := congrArg String.length same
  rw [String.length_append, String.length_append] at lengths
  exact Nat.add_right_cancel lengths

/-- The indentation is shorter by the margin. -/
lemma indentation_stripped (h : width ≤ indentation line) :
    indentation (stripped width line) = indentation line - width := by
  have whole (chars : List Char) :
      (chars.takeWhile isIndent).length + (chars.dropWhile isIndent).length = chars.length := by
    rw [← List.length_append, List.takeWhile_append_dropWhile]
  have before := whole line.toList
  have after := whole (line.toList.drop width)
  rw [dropWhile_drop h, List.length_drop] at after
  rw [indentation, toList_stripped h, indentation]
  omega

/-- Taking off a margin changes nothing about what comes behind the indentation. -/
lemma startsVisibly_stripped (width : Nat) (line : String) :
    StartsVisibly (stripped width line) ↔ StartsVisibly line := by
  by_cases h : width ≤ indentation line
  · rw [StartsVisibly, toList_stripped h, dropWhile_drop h, StartsVisibly]
  · rw [stripped_of_lt (Nat.not_le.mp h)]

/-- A line with something to see behind its indentation is not blank. -/
lemma StartsVisibly.notBlank (h : StartsVisibly line) : NotBlank line := by
  obtain ⟨c, first, visible⟩ := h
  have mem := (List.dropWhile_sublist isIndent).mem (List.mem_of_mem_head? first)
  exact ⟨c, mem, visible⟩

/-- Only lines that start visibly have a width, which is their indentation. -/
lemma indentWidth?_eq_some_iff {n : Nat} :
    indentWidth? line.toList = some n ↔ StartsVisibly line ∧ indentation line = n := by
  unfold indentWidth? StartsVisibly
  split
  · next nothing => simp [nothing]
  · next c rest something =>
    split_ifs with blank
    · simp [something, blank]
    · simp [something, blank, indentation]

end Line

/-! ### All lines -/

section Text

variable {text : String}

/-- The lines of a text at the margin are its lines without the margin. -/
lemma pieces_dedent (text : String) :
    pieces (dedent text) = (pieces text).map (stripped (margin text)) := by
  have lines : (dedentLines (text.toList.splitOn '\n')).map String.ofList =
      (pieces text).map (stripped (margin text)) := by
    simp [dedentLines, pieces, margin, stripped, Function.comp_def]
  rw [dedent, lines]
  refine pieces_joinPieces (mt List.map_eq_nil_iff.mp (pieces_ne_nil text)) ?_
  intro rest mem feed
  obtain ⟨line, hl, rfl⟩ := List.mem_map.mp mem
  have apart := not_mem_of_mem_pieces hl
  by_cases h : margin text ≤ indentation line
  · rw [toList_stripped h] at feed
    exact apart (List.mem_of_mem_drop feed)
  · rw [stripped_of_lt (Nat.not_le.mp h)] at feed
    exact apart feed

/-- The margin is the least of the widths, or nothing. -/
lemma margin_eq (text : String) :
    margin text = ((pieces text).filterMap fun line => indentWidth? line.toList).min?.getD 0 := by
  simp [margin, sharedIndent, pieces, List.filterMap_map]

/-- The widths found are the indentations of the lines that start visibly. -/
lemma mem_widths_iff {n : Nat} :
    n ∈ (pieces text).filterMap (fun line => indentWidth? line.toList) ↔
      n ∈ widths StartsVisibly text := by
  simp only [List.mem_filterMap, indentWidth?_eq_some_iff]
  rfl

/-- The margin is the least indentation of a line that starts visibly. -/
lemma isLeast_margin (h : ∃ line ∈ pieces text, StartsVisibly line) :
    IsLeast (widths StartsVisibly text) (margin text) := by
  obtain ⟨line, mem, visible⟩ := h
  have listed := mem_widths_iff.mpr ⟨line, mem, visible, rfl⟩
  obtain ⟨least, isMin⟩ := Option.isSome_iff_exists.mp (List.isSome_min?_of_mem listed)
  rw [margin_eq, isMin, Option.getD_some]
  obtain ⟨found, below⟩ := List.min?_eq_some_iff.mp isMin
  exact ⟨mem_widths_iff.mp found, fun n hn => below n (mem_widths_iff.mpr hn)⟩

/-- A text without a line that starts visibly has no margin. -/
lemma margin_eq_zero (h : ¬ ∃ line ∈ pieces text, StartsVisibly line) : margin text = 0 := by
  have noWidths : (pieces text).filterMap (fun line => indentWidth? line.toList) = [] := by
    refine List.eq_nil_iff_forall_not_mem.mpr fun n hn => ?_
    obtain ⟨line, mem, visible, -⟩ := mem_widths_iff.mp hn
    exact h ⟨line, mem, visible⟩
  rw [margin_eq, noWidths]
  rfl

/-- No line that starts visibly is indented less than the margin. -/
lemma margin_le {line : String} (mem : line ∈ pieces text) (visible : StartsVisibly line) :
    margin text ≤ indentation line :=
  (isLeast_margin ⟨line, mem, visible⟩).2 ⟨line, mem, visible, rfl⟩

/-- A text without a margin stays as it is. -/
lemma dedent_of_margin_eq_zero (h : margin text = 0) : dedent text = text := by
  have same : (pieces text).map (stripped 0) = pieces text := List.map_id'' stripped_zero _
  rw [← joinPieces_pieces (dedent text), pieces_dedent, h, same, joinPieces_pieces]

/-- The line with the smallest indentation is at the left margin afterwards. -/
lemma exists_flush (h : ∃ line ∈ pieces text, StartsVisibly line) :
    ∃ line ∈ pieces text, StartsVisibly line ∧ indentation (stripped (margin text) line) = 0 := by
  obtain ⟨line, mem, visible, least⟩ := (isLeast_margin h).1
  refine ⟨line, mem, visible, ?_⟩
  rw [indentation_stripped (Nat.le_of_eq least.symm), least, Nat.sub_self]

/-- A text at the margin has no margin any more. -/
lemma margin_dedent (text : String) : margin (dedent text) = 0 := by
  by_cases h : ∃ line ∈ pieces text, StartsVisibly line
  · obtain ⟨line, mem, visible, flush⟩ := exists_flush h
    have after : stripped (margin text) line ∈ pieces (dedent text) := by
      rw [pieces_dedent]
      exact List.mem_map_of_mem mem
    have small := margin_le after ((startsVisibly_stripped _ line).mpr visible)
    rw [flush] at small
    exact Nat.le_zero.mp small
  · rw [dedent_of_margin_eq_zero (margin_eq_zero h), margin_eq_zero h]

/-- A line loses the margin, or does not start visibly and stays as it is. -/
lemma loses_or_eq_stripped {line : String} (mem : line ∈ pieces text) :
    Loses (margin text) line (stripped (margin text) line) ∨
      ¬ StartsVisibly line ∧ stripped (margin text) line = line := by
  by_cases h : margin text ≤ indentation line
  · exact .inl (loses_stripped h)
  · exact .inr ⟨fun visible => h (margin_le mem visible), stripped_of_lt (Nat.not_le.mp h)⟩

end Text

/-- A text that is dedented has as many lines as before. All lines that start visibly lose the same number
of spaces and tabs, by which one of them comes to the left margin, and every other line loses as many or
nothing. A second time nothing is lost. -/
theorem dedent_keeps_lines (text : String) :
    (pieces (dedent text)).length = (pieces text).length ∧
    (∃ width,
      List.Forall₂ (fun line rest => Loses width line rest ∨ ¬ StartsVisibly line ∧ rest = line)
        (pieces text) (pieces (dedent text)) ∧
      ((∃ line ∈ pieces text, StartsVisibly line) →
        ∃ pair ∈ (pieces text).zip (pieces (dedent text)),
          StartsVisibly pair.1 ∧ indentation pair.2 = 0)) ∧
    dedent (dedent text) = dedent text := by
  refine ⟨?_, ⟨margin text, ?_, ?_⟩, dedent_of_margin_eq_zero (margin_dedent text)⟩
  · rw [pieces_dedent, List.length_map]
  · rw [pieces_dedent, List.forall₂_map_right_iff, List.forall₂_same]
    exact fun line mem => loses_or_eq_stripped mem
  · intro h
    obtain ⟨line, mem, visible, flush⟩ := exists_flush h
    rw [pieces_dedent, ← List.map_prod_left_eq_zip]
    exact ⟨_, List.mem_map_of_mem mem, visible, flush⟩

/-- A tab among spaces, a line that goes on with another blank, an empty line and a carriage return. -/
theorem dedent_keeps_lines_mixed :
    let text := "\t  a\n \t \u00A0b\n\n  c\r\n    "
    dedent text = " a\n \u00A0b\n\nc\r\n  " ∧
      ∃ pair ∈ (pieces text).zip (pieces (dedent text)),
        StartsVisibly pair.1 ∧ indentation pair.2 = 0 := by
  intro text
  obtain ⟨width, -, flush⟩ := (dedent_keeps_lines text).2.1
  exact ⟨by decide +kernel, flush (by decide +kernel)⟩

/-! ### The lines that are not blank -/

/-- The least indentation is that of some line, and not more than that of any other. -/
lemma isLeast_widths_iff {p : String → Prop} {text : String} {n : Nat} :
    IsLeast (widths p text) n ↔
      (∃ line ∈ pieces text, p line ∧ indentation line = n) ∧
        ∀ line ∈ pieces text, p line → n ≤ indentation line := by
  refine and_congr_right fun _ => ?_
  constructor
  · exact fun below line mem h => below ⟨line, mem, h, rfl⟩
  · rintro below n ⟨line, mem, h, rfl⟩
    exact below line mem h

/-- There are no widths just when no line has the property. -/
lemma widths_eq_empty_iff {p : String → Prop} {text : String} :
    widths p text = ∅ ↔ ¬ ∃ line ∈ pieces text, p line := by
  rw [Set.eq_empty_iff_forall_notMem]
  constructor
  · rintro noWidth ⟨line, mem, h⟩
    exact noWidth _ ⟨line, mem, h, rfl⟩
  · rintro noLine n ⟨line, mem, h, -⟩
    exact noLine ⟨line, mem, h⟩

/-- The margin is the least of the widths, or nothing where there are none. -/
lemma margin_spec (text : String) :
    IsLeast (widths StartsVisibly text) (margin text) ∨
      widths StartsVisibly text = ∅ ∧ margin text = 0 := by
  by_cases h : ∃ line ∈ pieces text, StartsVisibly line
  · exact .inl (isLeast_margin h)
  · exact .inr ⟨widths_eq_empty_iff.mpr h, margin_eq_zero h⟩

section Least

variable {text : String} {least : Nat} (isLeast : IsLeast (widths NotBlank text) least)
include isLeast

/-- The least indentation of lines that are not blank is the margin just when a line that starts visibly has
it, or when no line does so and it is nothing. -/
lemma margin_eq_least_iff :
    margin text = least ↔
      least ∈ widths StartsVisibly text ∨ widths StartsVisibly text = ∅ ∧ least = 0 := by
  constructor
  · rintro rfl
    exact (margin_spec text).imp_left And.left
  · rintro (⟨line, mem, visible, rfl⟩ | ⟨noWidth, rfl⟩)
    · obtain ⟨first, found, visible', width⟩ := (isLeast_margin ⟨line, mem, visible⟩).1
      have below := isLeast.2 ⟨first, found, visible'.notBlank, rfl⟩
      rw [width] at below
      exact Nat.le_antisymm (margin_le mem visible) below
    · exact margin_eq_zero (widths_eq_empty_iff.mp noWidth)

/-- The lines that are not blank all lose their smallest indentation just if it is the margin. -/
lemma forall_loses_iff :
    (∀ line ∈ pieces text, NotBlank line → Loses least line (stripped (margin text) line)) ↔
      margin text = least := by
  constructor
  · intro all
    by_cases h : ∃ line ∈ pieces text, StartsVisibly line
    · obtain ⟨line, mem, visible⟩ := h
      exact (loses_stripped (margin_le mem visible)).unique (all line mem visible.notBlank)
    · obtain ⟨line, mem, notBlank, -⟩ := isLeast.1
      have lost := all line mem notBlank
      rw [margin_eq_zero h] at lost ⊢
      exact (loses_stripped (Nat.zero_le _)).unique lost
  · rintro rfl line mem notBlank
    exact loses_stripped (isLeast.2 ⟨line, mem, notBlank, rfl⟩)

end Least

/-- The margin is the smallest indentation of the lines that start visibly, and every line that has as much
loses it. So the lines that are not blank all lose the smallest indentation among them just if a line that
has it starts visibly, or if no line starts visibly and there is nothing to lose. -/
theorem dedent_not_blank (text : String) :
    (∃ width,
      (IsLeast (widths StartsVisibly text) width ∨ widths StartsVisibly text = ∅ ∧ width = 0) ∧
      List.Forall₂
        (fun line rest => if width ≤ indentation line then Loses width line rest else rest = line)
        (pieces text) (pieces (dedent text))) ∧
    ∀ least, IsLeast (widths NotBlank text) least →
      (List.Forall₂ (fun line rest => NotBlank line → Loses least line rest)
          (pieces text) (pieces (dedent text)) ↔
        least ∈ widths StartsVisibly text ∨ widths StartsVisibly text = ∅ ∧ least = 0) := by
  constructor
  · refine ⟨margin text, margin_spec text, ?_⟩
    rw [pieces_dedent, List.forall₂_map_right_iff, List.forall₂_same]
    intro line _
    split_ifs with h
    · exact loses_stripped h
    · exact stripped_of_lt (Nat.not_le.mp h)
  · intro least isLeast
    rw [pieces_dedent, List.forall₂_map_right_iff, List.forall₂_same, forall_loses_iff isLeast,
      margin_eq_least_iff isLeast]

/-- A line that goes on with another blank does no harm beside one of the same indentation. -/
theorem dedent_not_blank_beside :
    let text := "  \u00A0a\n\n  b\n    c"
    List.Forall₂ (fun line rest => NotBlank line → Loses 2 line rest) (pieces text)
      (pieces (dedent text)) := by
  intro text
  have least : IsLeast (widths NotBlank text) 2 := isLeast_widths_iff.mpr (by decide +kernel)
  have starts : 2 ∈ widths StartsVisibly text := by
    have line : ∃ line ∈ pieces text, StartsVisibly line ∧ indentation line = 2 := by decide +kernel
    exact line
  exact ((dedent_not_blank text).2 2 least).mpr (.inl starts)

/-- Of two lines that are not blank, the one with the smaller indentation goes on with another blank. It
loses nothing, and the other one loses more than that indentation. -/
theorem dedent_hidden_indentation :
    let text := "    a();\n  \u00A0b();"
    IsLeast (widths NotBlank text) 2 ∧ dedent text = "a();\n  \u00A0b();" ∧
      ¬ List.Forall₂ (fun line rest => NotBlank line → Loses 2 line rest) (pieces text)
          (pieces (dedent text)) := by
  intro text
  refine ⟨isLeast_widths_iff.mpr (by decide +kernel), by decide +kernel, ?_⟩
  have before : pieces text = ["    a();", "  \u00A0b();"] := by decide +kernel
  have after : pieces (dedent text) = ["a();", "  \u00A0b();"] := by decide +kernel
  rw [before, after]
  intro all
  cases all with
  | cons first _ =>
    have four : Loses 4 "    a();" "a();" := ⟨"    ", by decide, by decide, by decide⟩
    exact absurd (four.unique (first (by decide))) (by decide)

end CodeClones.Text
