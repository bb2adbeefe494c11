import CodeClones.Proofs.Clone.Filling
import CodeClones.Proofs.Text.Bytes
import CodeClones.Proofs.Text.Indent

/-!
# Cutting an excerpt

An excerpt is cut from a list of lines by numbers, and the indentation is cut off its lines by bytes. Here are
the same steps with every index checked (`excerpt?`, `Text.dedent?`): where a list or a text has no such part, there
is no result. There always is one, and it is the excerpt (`excerpt?_eq`). So `excerpt_linesBetween` says of any two
positions which lines the excerpt is made of.
-/

namespace CodeClones

namespace Text

/-- The number of bytes in front of a line whose first character behind the indentation is not blank. -/
def indentBytes? (line : String) : Option Nat :=
  match line.toList.dropWhile isIndent with
  | [] => none
  | c :: rest =>
    if isBlank c then none else some (line.utf8ByteSize - (String.ofList (c :: rest)).utf8ByteSize)

/-- A line behind a number of bytes, if all of these are spaces and tabs, and else the whole line. -/
def strip? (width : Nat) (line : String) : Option String :=
  let bytes := line.toUTF8.toList
  if width ≤ bytes.length ∧ (bytes.take width).all isIndentByte then
    slice? line width line.utf8ByteSize
  else some line

/-- A text without the indentation that its lines share, in bytes. -/
def dedent? (text : String) : Option String :=
  let width := ((pieces text).filterMap indentBytes?).min?.getD 0
  if width = 0 then some text else ((pieces text).mapM (strip? width)).map joinPieces

/-- Indentation is made of characters of the seven-bit range. -/
lemma toNat_of_isIndent {c : Char} (h : isIndent c) : c.toNat ≤ 127 := by
  rw [isIndent, Bool.or_eq_true, beq_iff_eq, beq_iff_eq] at h
  rcases h with rfl | rfl <;> decide

/-- Indentation has as many bytes as characters. -/
lemma utf8ByteSize_of_isIndent {lead : List Char} (h : ∀ c ∈ lead, isIndent c) :
    (String.ofList lead).utf8ByteSize = lead.length :=
  (utf8ByteSize_eq_length_iff lead).mpr fun c mem => toNat_of_isIndent (h c mem)

/-- The indentation of a line is the same in bytes as in characters. -/
lemma indentBytes?_eq (line : String) : indentBytes? line = indentWidth? line.toList := by
  have apart : String.ofList (line.toList.takeWhile isIndent) ++
      String.ofList (line.toList.dropWhile isIndent) = line := by
    rw [← String.ofList_append, List.takeWhile_append_dropWhile, String.ofList_toList]
  have sizes := congrArg String.utf8ByteSize apart
  rw [String.utf8ByteSize_append,
    utf8ByteSize_of_isIndent fun c mem => List.mem_takeWhile_imp mem] at sizes
  rw [indentBytes?, indentWidth?]
  cases behind : line.toList.dropWhile isIndent with
  | nil => rfl
  | cons c rest =>
    rw [behind] at sizes
    simp only [← sizes, Nat.add_sub_cancel]

/-- Behind indentation a character starts, so the slice is always there. -/
lemma strip?_eq (width : Nat) (line : String) : strip? width line = some (stripped width line) := by
  simp only [strip?, toList_toUTF8, all_take_bytes_iff]
  split_ifs with h
  · have lead : (String.ofList (line.toList.take width)).utf8ByteSize = width := by
      rw [utf8ByteSize_of_isIndent (isIndent_of_mem_take h), List.length_take]
      exact Nat.min_eq_left (h.trans (List.takeWhile_prefix isIndent).length_le)
    have apart : String.ofList (line.toList.take width) ++ stripped width line = line := by
      apply String.toList_injective
      rw [String.toList_append, String.toList_ofList, toList_stripped h, List.take_append_drop]
    have cut := slice?_append (.ofList (line.toList.take width)) (stripped width line)
    rwa [lead, apart] at cut
  · rw [stripped_of_lt (Nat.not_le.mp h)]

/-- No cut at the margin goes through a character, so the result is the plain one. -/
lemma dedent?_eq (text : String) : dedent? text = some (dedent text) := by
  have width : ((pieces text).filterMap indentBytes?).min?.getD 0 = margin text := by
    rw [margin_eq]
    simp only [indentBytes?_eq]
  have all : (pieces text).mapM (strip? (margin text)) =
      some ((pieces text).map (stripped (margin text))) := by
    rw [funext (strip?_eq (margin text))]
    exact List.mapM_pure
  rw [dedent?]
  simp only [width]
  split_ifs with zero
  · rw [dedent_of_margin_eq_zero zero]
  · rw [all, Option.map_some, ← pieces_dedent, joinPieces_pieces]

end Text

variable (lines : List String) (start stop : Position)

/-- The lines from one index up to another, which have to be in order and not beyond the end. -/
def cut? (first last : Nat) : Option (List String) :=
  if first ≤ last ∧ last ≤ lines.length then some ((lines.take last).drop first) else none

/-- The lines from one position's line to the other's, without the indentation they share. Both numbers are
brought among those of the lines first. -/
def excerpt? : Option String :=
  let first := min (start.line.toNat - 1) lines.length
  let last := max (min stop.line.toNat lines.length) first
  (cut? lines first last).bind fun cut => Text.dedent? (Text.joinPieces cut)

/-- Bounds that are brought into the list select the same lines. -/
lemma drop_take_clamped (i j : Nat) :
    (lines.take (max (min j lines.length) (min i lines.length))).drop (min i lines.length) =
      (lines.take j).drop i := by
  rw [List.drop_take, List.drop_take]
  by_cases inside : i ≤ lines.length
  · rw [Nat.min_eq_left inside, List.take_eq_take_iff, List.length_drop]
    omega
  · have past : lines.length ≤ i := Nat.le_of_not_le inside
    rw [Nat.min_eq_right past, List.drop_length, List.drop_eq_nil_of_le past, List.take_nil,
      List.take_nil]

/-- Numbers brought among those of the lines cut out what the given numbers do. -/
lemma cut?_clamped (i j : Nat) :
    cut? lines (min i lines.length) (max (min j lines.length) (min i lines.length)) =
      some ((lines.take j).drop i) := by
  have order : min i lines.length ≤ max (min j lines.length) (min i lines.length) :=
    Nat.le_max_right _ _
  have inside : max (min j lines.length) (min i lines.length) ≤ lines.length :=
    Nat.max_le.mpr ⟨Nat.min_le_right _ _, Nat.min_le_right _ _⟩
  rw [cut?, if_pos ⟨order, inside⟩, drop_take_clamped]

/-- No slice is out of range, so the excerpt is the plain one. -/
lemma excerpt?_eq : excerpt? lines start stop = some (excerpt lines start stop) := by
  simp only [excerpt?, cut?_clamped, Option.bind_some, Text.dedent?_eq]
  rfl

/-- The lines of a range are lines of the file. -/
lemma mem_of_mem_linesBetween {lines : List String} {first last : Nat} {line : String}
    (h : line ∈ linesBetween lines first last) : line ∈ lines := by
  rw [linesBetween, map_fst_filter_zipIdx] at h
  exact List.mem_of_mem_take (List.mem_of_mem_drop h)

/-- Lines without line feeds are as many after they have been joined and moved to the left margin. -/
lemma length_pieces_excerpt (apart : ∀ line ∈ lines, '\n' ∉ line.toList)
    (nonempty : linesBetween lines start.line.toNat stop.line.toNat ≠ []) :
    (Text.pieces (excerpt lines start stop)).length =
      (linesBetween lines start.line.toNat stop.line.toNat).length := by
  rw [excerpt_eq, Text.pieces_dedent, List.length_map, Text.pieces_joinPieces nonempty]
  intro line mem
  exact apart line (mem_of_mem_linesBetween mem)

/-- Of any lines and any two positions, the excerpt is made of just those lines whose numbers, counted from one,
are between theirs, and is empty where there are none. No index is ever outside a list or a text on the way. Where
the lines hold no line feeds, the excerpt has as many lines as are in the range. -/
theorem excerpt_linesBetween (lines : List String) (start stop : Position) :
    let inRange := linesBetween lines start.line.toNat stop.line.toNat
    excerpt lines start stop = Text.dedent (Text.joinPieces inRange) ∧
      (inRange = [] → excerpt lines start stop = "") ∧
      excerpt? lines start stop = some (excerpt lines start stop) ∧
      ((∀ line ∈ lines, '\n' ∉ line.toList) → inRange ≠ [] →
        (Text.pieces (excerpt lines start stop)).length = inRange.length) := by
  intro inRange
  refine ⟨excerpt_eq lines start stop, ?_, excerpt?_eq lines start stop,
    length_pieces_excerpt lines start stop⟩
  intro none
  have joined : excerpt lines start stop = Text.dedent (Text.joinPieces inRange) :=
    excerpt_eq lines start stop
  rw [joined, none]
  rfl

/-- From line zero to far behind the end, and from a line back to the one before. -/
theorem excerpt_linesBetween_clamped :
    let lines := ["  a", "", "    b"]
    excerpt lines ⟨0, 0⟩ ⟨4294967295, 0⟩ = "a\n\n  b" ∧
      (Text.pieces (excerpt lines ⟨0, 0⟩ ⟨4294967295, 0⟩)).length = 3 ∧
      excerpt lines ⟨3, 0⟩ ⟨2, 0⟩ = "" := by
  intro lines
  obtain ⟨-, -, -, count⟩ := excerpt_linesBetween lines ⟨0, 0⟩ ⟨4294967295, 0⟩
  obtain ⟨-, empty, -, -⟩ := excerpt_linesBetween lines ⟨3, 0⟩ ⟨2, 0⟩
  exact ⟨by decide +kernel, count (by decide) (by decide), empty (by decide)⟩

end CodeClones
