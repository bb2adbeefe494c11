import CodeClones.Clone.Snapshot
import CodeClones.Proofs.Text.Indent
import Mathlib.Order.Bounds.Basic

/-!
# Code at another depth

The same code may stand deeper in one file than in another: every line that is not empty then has some
more spaces and tabs in front (`indented`). Its margin grows by as much (`margin_indented`), so dedenting
gives the same lines, `dedent_indented`, as long as every line of the code is empty or starts visibly.
-/

namespace CodeClones.Text

/-- A line with something put in front of it, unless it is empty. -/
def indented (lead line : String) : String :=
  if line = "" then "" else lead ++ line

section Line

variable {lead line : String}

/-- A line that is not empty has the lead put in front of it. -/
lemma indented_of_ne (h : line ≠ "") : indented lead line = lead ++ line := if_neg h

/-- A line that starts visibly is not empty. -/
lemma StartsVisibly.ne_empty (h : StartsVisibly line) : line ≠ "" := by
  rintro rfl
  exact absurd h (by decide)

/-- Nothing can be taken off an empty line. -/
lemma stripped_empty (width : Nat) : stripped width "" = "" := by
  cases width with
  | zero => exact stripped_zero ""
  | succ width => exact stripped_of_lt (Nat.succ_pos width)

variable (isLead : IsLead lead)
include isLead

/-- A lead is indentation. -/
lemma isIndent_of_isLead : ∀ c ∈ lead.toList, isIndent c := by
  intro c hc
  rcases isLead c hc with rfl | rfl <;> rfl

/-- A lead adds its length to the indentation. -/
lemma indentation_append : indentation (lead ++ line) = lead.length + indentation line := by
  rw [indentation, String.toList_append, List.takeWhile_append_of_pos (isIndent_of_isLead isLead),
    List.length_append, String.length_toList, indentation]

/-- A lead changes nothing about whether a line starts visibly. -/
lemma startsVisibly_indented : StartsVisibly (indented lead line) ↔ StartsVisibly line := by
  by_cases empty : line = ""
  · rw [indented, if_pos empty, empty]
  · rw [indented_of_ne empty, StartsVisibly, String.toList_append,
      List.dropWhile_append_of_pos (isIndent_of_isLead isLead), StartsVisibly]

/-- What the lead adds is taken off with the margin. -/
lemma stripped_append {width : Nat} (h : width ≤ indentation line) :
    stripped (lead.length + width) (lead ++ line) = stripped width line := by
  have deeper : lead.length + width ≤ indentation (lead ++ line) := by
    rw [indentation_append isLead]
    exact Nat.add_le_add_left h _
  apply String.toList_injective
  rw [toList_stripped deeper, toList_stripped h, String.toList_append, ← String.length_toList,
    List.drop_length_add_append]

end Line

section Text

variable {text lead : String} (isLead : IsLead lead)
include isLead

/-- The lines of the text that is made of indented lines. -/
lemma pieces_indented :
    pieces (joinPieces ((pieces text).map (indented lead))) = (pieces text).map (indented lead) := by
  refine pieces_joinPieces (mt List.map_eq_nil_iff.mp (pieces_ne_nil text)) ?_
  intro line mem feed
  obtain ⟨before, hb, rfl⟩ := List.mem_map.mp mem
  by_cases empty : before = ""
  · rw [indented, if_pos empty] at feed
    exact List.not_mem_nil feed
  · rw [indented_of_ne empty, String.toList_append] at feed
    rcases List.mem_append.mp feed with front | back
    · rcases isLead _ front with space | tab
      · exact absurd space (by decide)
      · exact absurd tab (by decide)
    · exact not_mem_of_mem_pieces hb back

/-- A lead in front of all lines adds its length to the margin. -/
lemma margin_indented (h : ∃ line ∈ pieces text, StartsVisibly line) :
    margin (joinPieces ((pieces text).map (indented lead))) = lead.length + margin text := by
  have deeper {line : String} (visible : StartsVisibly line) :
      indentation (indented lead line) = lead.length + indentation line := by
    rw [indented_of_ne visible.ne_empty, indentation_append isLead]
  have lines : pieces (joinPieces ((pieces text).map (indented lead))) =
      (pieces text).map (indented lead) := pieces_indented isLead
  obtain ⟨line, mem, visible, least⟩ := (isLeast_margin h).1
  have found : indented lead line ∈ pieces (joinPieces ((pieces text).map (indented lead))) := by
    rw [lines]
    exact List.mem_map_of_mem mem
  have startsHere := (startsVisibly_indented isLead).mpr visible
  refine (isLeast_margin ⟨_, found, startsHere⟩).unique ⟨⟨_, found, startsHere, ?_⟩, ?_⟩
  · rw [deeper visible, least]
  · rintro n ⟨after, ha, visible', rfl⟩
    rw [lines] at ha
    obtain ⟨before, hb, rfl⟩ := List.mem_map.mp ha
    have starts := (startsVisibly_indented isLead).mp visible'
    rw [deeper starts]
    exact Nat.add_le_add_left (margin_le hb starts) _

/-- A text whose lines have a lead in front comes out like the text itself. -/
lemma dedent_joinPieces_indented (flush : ∀ line ∈ pieces text, line = "" ∨ StartsVisibly line) :
    dedent (joinPieces ((pieces text).map (indented lead))) = dedent text := by
  by_cases h : ∃ line ∈ pieces text, StartsVisibly line
  · have lines : pieces (dedent (joinPieces ((pieces text).map (indented lead)))) =
        pieces (dedent text) := by
      rw [pieces_dedent, pieces_indented isLead, margin_indented isLead h, pieces_dedent, List.map_map]
      refine List.map_congr_left fun line mem => ?_
      rcases flush line mem with rfl | visible
      · exact (stripped_empty _).trans (stripped_empty _).symm
      · rw [Function.comp_apply, indented_of_ne visible.ne_empty]
        exact stripped_append isLead (margin_le mem visible)
    rw [← joinPieces_pieces (dedent _), lines, joinPieces_pieces]
  · -- all lines are empty and stay so
    have same : (pieces text).map (indented lead) = pieces text := by
      refine (List.map_congr_left fun line mem => ?_).trans (List.map_id _)
      rcases flush line mem with rfl | visible
      · exact if_pos rfl
      · exact absurd ⟨line, mem, visible⟩ h
    rw [same, joinPieces_pieces]

end Text

/-- When every line is empty or starts visibly, more spaces and tabs in front of the lines that are not empty
make no difference to the dedented text. So the excerpts of the same code are the same at any two depths. -/
theorem dedent_indented (text : String)
    (flush : ∀ line ∈ pieces text, line = "" ∨ StartsVisibly line) :
    (∀ lead, IsLead lead →
      dedent (joinPieces ((pieces text).map (indented lead))) = dedent text) ∧
    ∀ (file file' : List String) (start stop start' stop' : Position) (lead lead' : String),
      IsLead lead → IsLead lead' →
      (file.take stop.line.toNat).drop (start.line.toNat - 1) = (pieces text).map (indented lead) →
      (file'.take stop'.line.toNat).drop (start'.line.toNat - 1) = (pieces text).map (indented lead') →
      excerpt file start stop = excerpt file' start' stop' := by
  constructor
  · exact fun lead isLead => dedent_joinPieces_indented isLead flush
  · intro file file' start stop start' stop' lead lead' isLead isLead' lines lines'
    rw [excerpt, lines, excerpt, lines', dedent_joinPieces_indented isLead flush,
      dedent_joinPieces_indented isLead' flush]

/-- Three lines and an empty one behind a tab and a space, and as excerpts of two files. -/
theorem dedent_indented_deeper :
    dedent "\t if (a)\n\t   b();\n\n\t c();" = dedent "if (a)\n  b();\n\nc();" ∧
      excerpt ["x();", "    if (a)", "      b();", "", "    c();"] ⟨2, 4⟩ ⟨5, 8⟩ =
        excerpt ["if (a)", "  b();", "", "c();", "d();"] ⟨1, 0⟩ ⟨4, 4⟩ := by
  have flush : ∀ line ∈ pieces "if (a)\n  b();\n\nc();", line = "" ∨ StartsVisibly line := by
    decide +kernel
  obtain ⟨dedented, excerpts⟩ := dedent_indented _ flush
  have deeper : joinPieces ((pieces "if (a)\n  b();\n\nc();").map (indented "\t ")) =
      "\t if (a)\n\t   b();\n\n\t c();" := by decide +kernel
  constructor
  · rw [← deeper]
    exact dedented "\t " (by decide)
  · exact excerpts _ _ _ _ _ _ "    " "" (by decide) (by decide) (by decide +kernel)
      (by decide +kernel)

end CodeClones.Text
