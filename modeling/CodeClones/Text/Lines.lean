/-!
# Lines of a text

Two ways to cut a text at its line feeds. `pieces` keeps every part, so that joining the parts
with line feeds gives the text back, and parts without line feeds come back when they have been
joined. `lines` gives the lines a reader counts: a carriage return directly before a line feed
belongs to the line ending, and an ending at the very end of the text opens no further line.
-/

namespace CodeClones.Text

/-- The parts of a text between its line feeds. -/
def pieces (text : String) : List String :=
  (text.toList.splitOn '\n').map String.ofList

/-- Joins parts with a line feed between each two. -/
def joinPieces (parts : List String) : String :=
  String.intercalate "\n" parts

/-- Drops one carriage return at the end. -/
def dropReturn (line : List Char) : List Char :=
  if line.getLast? = some '\r' then line.dropLast else line

/-- The lines among the parts of a text: every part that a line feed ends, without its carriage
return, and the last part when it holds anything. -/
def linesOfPieces : List (List Char) → List (List Char)
  | [] => []
  | [last] => if last.isEmpty then [] else [last]
  | part :: rest => dropReturn part :: linesOfPieces rest

/-- The lines of a text. -/
def lines (text : String) : List String :=
  (linesOfPieces (text.toList.splitOn '\n')).map String.ofList

/-- The parts of a text between separators, joined with the separator, give the text back. -/
theorem intercalate_splitOn {separator : String} {c : Char} (h : separator.toList = [c])
    (text : String) :
    separator.intercalate ((text.toList.splitOn c).map String.ofList) = text := by
  apply String.toList_injective
  simp [String.toList_intercalate, h, Function.comp_def, List.intercalate_splitOn]

/-- Joining the parts of a text gives the text back. -/
theorem joinPieces_pieces (text : String) : joinPieces (pieces text) = text :=
  intercalate_splitOn rfl text

/-- The parts between separators hold none. -/
theorem not_mem_of_mem_splitOn {separator : Char} {text part : List Char}
    (h : part ∈ text.splitOn separator) : separator ∉ part := by
  induction text generalizing part with
  | nil =>
    rw [List.splitOn_nil, List.mem_singleton] at h
    rw [h]
    exact List.not_mem_nil
  | cons c text ih =>
    rw [List.splitOn_cons_eq_if_modifyHead] at h
    by_cases here : c = separator
    · rw [if_pos (beq_iff_eq.mpr here)] at h
      cases h with
      | head => exact List.not_mem_nil
      | tail _ later => exact ih later
    · rw [if_neg (mt beq_iff_eq.mp here)] at h
      obtain ⟨first, rest, parts⟩ := List.exists_cons_of_ne_nil (List.splitOn_ne_nil separator text)
      rw [parts] at h ih
      cases h with
      | head =>
        intro mem
        cases mem with
        | head => exact here rfl
        | tail _ later => exact ih List.mem_cons_self later
      | tail _ later => exact ih (List.mem_cons_of_mem first later)

/-- The parts of a text hold no line feeds. -/
theorem not_mem_of_mem_pieces {text part : String} (h : part ∈ pieces text) : '\n' ∉ part.toList := by
  obtain ⟨chars, mem, rfl⟩ := List.mem_map.mp h
  rw [String.toList_ofList]
  exact not_mem_of_mem_splitOn mem

/-- Every text has a piece, if only an empty one. -/
theorem pieces_ne_nil (text : String) : pieces text ≠ [] :=
  mt List.map_eq_nil_iff.mp (List.splitOn_ne_nil '\n' text.toList)

/-- Parts that do not hold the separator are found again when they have been joined with it. -/
theorem splitOn_intercalate {separator : String} {c : Char} (h : separator.toList = [c])
    {parts : List String} (nonempty : parts ≠ []) (apart : ∀ part ∈ parts, c ∉ part.toList) :
    (separator.intercalate parts).toList.splitOn c = parts.map String.toList := by
  rw [String.toList_intercalate, h]
  refine List.splitOn_intercalate c ?_ (mt List.map_eq_nil_iff.mp nonempty)
  intro chars mem
  obtain ⟨part, hp, rfl⟩ := List.mem_map.mp mem
  exact apart part hp

/-- Parts without line feeds are found again when they have been joined. -/
theorem pieces_joinPieces {parts : List String} (nonempty : parts ≠ [])
    (apart : ∀ part ∈ parts, '\n' ∉ part.toList) : pieces (joinPieces parts) = parts := by
  rw [pieces, joinPieces, splitOn_intercalate rfl nonempty apart, List.map_map]
  simp [Function.comp_def]

end CodeClones.Text
