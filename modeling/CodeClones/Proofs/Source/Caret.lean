import CodeClones.Proofs.Number.Digits
import CodeClones.Proofs.Source.Attempts
import CodeClones.Proofs.Source.Excerpt
import CodeClones.Proofs.Text.Bytes

/-!
# Where the caret stands

A failure to parse a source reports a position at the end of its message, and its excerpt has a caret below
the line of that position. The message tells the position (`Fault.Reports.unique`), and a failure reports a
position only where some tree has a node at fault (`Attempt.lastFault_cases`), whose column the caret has
then. Columns count bytes. So the caret stands behind as many spaces as there are bytes before the position,
and below the character at the position just if all characters before it have a single byte each:
`SourceFile.parse_caret`.
-/

namespace CodeClones

namespace Position

/-- The line of a position in a source, cut there. The column counts the bytes of what stands in front. -/
structure Cuts (p : Position) (source front back : String) : Prop where
  line : ∃ row, p.line.toNat = row + 1 ∧ (Text.pieces source)[row]? = some (front ++ back)
  column : p.column.toNat = front.utf8ByteSize

/-- The text of a position is the digits of its line, a colon, and the digits of its column. -/
lemma toList_text (p : Position) :
    p.text.toList = Nat.toDigits 10 p.line.toNat ++ ':' :: Nat.toDigits 10 p.column.toNat := by
  simp [text, Nat.toString_eq_repr, Nat.toList_repr]

/-- A position can be told from its text. -/
lemma text_injective : Function.Injective text := by
  intro p q same
  have chars := congrArg String.toList same
  have colon : ∀ n, ':' ∉ Nat.toDigits 10 n := fun n => Numeral.not_mem_toDigits n rfl
  rw [toList_text, toList_text, List.append_cons_inj_of_notMem (colon _) (colon _)] at chars
  obtain ⟨line, -, column⟩ := chars
  have line := UInt32.toNat_inj.mp (Numeral.toDigits_injective line)
  have column := UInt32.toNat_inj.mp (Numeral.toDigits_injective column)
  cases p
  cases q
  cases line
  cases column
  rfl

end Position

namespace Fault

/-- A message that ends with a position. -/
def Reports (message : String) (position : Position) : Prop :=
  ∃ what, message = what ++ " (" ++ position.text ++ ")"

/-- The text of the position is what stands behind the last parenthesis that opens. -/
lemma Reports.takeWhile_eq {message : String} {p : Position} (h : Reports message p) :
    message.toList.reverse.takeWhile (· != '(') = ')' :: p.text.toList.reverse := by
  obtain ⟨what, rfl⟩ := h
  have fresh : ∀ c ∈ ')' :: p.text.toList.reverse, (c != '(') = true := by
    intro c mem
    rw [p.toList_text] at mem
    rw [bne_iff_ne]
    rintro rfl
    simp [Numeral.not_mem_toDigits] at mem
  have chars : (what ++ " (" ++ p.text ++ ")").toList.reverse =
      (')' :: p.text.toList.reverse) ++ '(' :: ' ' :: what.toList.reverse := by
    simp
  rw [chars, List.takeWhile_append_of_pos fresh, List.takeWhile_cons_of_neg (by decide), List.append_nil]

/-- A message reports one position only. -/
lemma Reports.unique {message : String} {p q : Position} (hp : Reports message p)
    (hq : Reports message q) : p = q := by
  have same := hp.takeWhile_eq.symm.trans hq.takeWhile_eq
  have reversed := List.reverse_injective (List.cons.inj same).2
  exact Position.text_injective (String.toList_injective reversed)

/-- The message about a node reports where the node starts. -/
lemma reports_ofNode (node : Cst.Tree) : Reports (ofNode node).message node.start.position :=
  ⟨describe node, rfl⟩

/-- The message about a missing tree reports no position. -/
lemma not_reports_noTree (position : Position) : ¬ Reports noTree.message position := by
  rintro ⟨what, same⟩
  have last := congrArg (fun text : String => text.toList.reverse.head?) same
  simp [noTree] at last

end Fault

namespace Attempt

variable {trees : Trees}

/-- The fault of an attempt is about some node. -/
lemma fault?_make {d : Dialect} {fault : Fault} (h : (make trees d).fault? = some fault) :
    ∃ node, fault = .ofNode node := by
  unfold make at h
  cases given : trees d with
  | none =>
    rw [given] at h
    cases h
  | some root =>
    simp only [given, Fault.find?] at h
    cases flag : root.hasError with
    | true =>
      rw [flag] at h
      cases h
      exact ⟨root.faultNode, rfl⟩
    | false =>
      rw [flag] at h
      cases h

/-- The last fault is about some node, or no attempt has made a tree. -/
lemma lastFault_cases (trees : Trees) (dialects : List Dialect) :
    lastFault (dialects.map (make trees)) = .noTree ∨
      ∃ node, lastFault (dialects.map (make trees)) = .ofNode node := by
  rw [lastFault]
  cases last : ((dialects.map (make trees)).filterMap fault?).getLast? with
  | none => exact .inl rfl
  | some fault =>
    obtain ⟨attempt, mem, found⟩ := List.mem_filterMap.mp (List.mem_of_getLast? last)
    obtain ⟨d, -, rfl⟩ := List.mem_map.mp mem
    exact .inr (fault?_make found)

end Attempt

/-! ### Bytes and characters -/

namespace SourceFile

variable {columnLimit : UInt32} {filename source path message excerpt : String} {language : Language}
  {trees : Trees}

/-- The error of a source that is not parsed shows the last fault, and quotes the source at it. -/
lemma parse_error_inv
    (h : parse columnLimit filename language source trees = .error (.unparsed path message excerpt)) :
    let fault := Attempt.lastFault (language.dialects.map (Attempt.make trees))
    message = fault.message ∧ excerpt = fault.context source columnLimit := by
  cases parse_eq_error h
  exact ⟨rfl, rfl⟩

/-- Where a source is not parsed, and the position that is reported cuts a line of the source and is in
sight of the limit, the excerpt quotes that line and ends with a caret behind some spaces. There are as many
spaces as there are bytes in front of the position; so there are as many as there are characters just if
each of these has a single byte. -/
theorem parse_caret {position : Position} {front back : String}
    (failed : parse columnLimit filename language source trees =
      .error (.unparsed path message excerpt))
    (reported : Fault.Reports message position) (cuts : position.Cuts source front back)
    (below : position.column < columnLimit) :
    ∃ indent, Fault.Quotes excerpt (Fault.dropReturns (front ++ back)) indent ∧
      (Text.pieces excerpt).getLast? = some (.ofList (List.replicate indent ' ' ++ ['^'])) ∧
      indent = front.utf8ByteSize ∧
      (indent = front.length ↔ ∀ c ∈ front.toList, c.toNat ≤ 127) := by
  obtain ⟨rfl, rfl⟩ := parse_error_inv failed
  have known : (Attempt.lastFault (language.dialects.map (Attempt.make trees))).position =
      some position := by
    rcases Attempt.lastFault_cases trees language.dialects with noTree | ⟨node, ofNode⟩
    · rw [noTree] at reported
      exact absurd reported (Fault.not_reports_noTree position)
    · rw [ofNode] at reported ⊢
      rw [reported.unique (Fault.reports_ofNode node)]
      rfl
  obtain ⟨row, number, line⟩ := cuts.line
  have part : (Text.pieces source)[position.line.toNat - 1]? = some (front ++ back) := by
    rwa [number, Nat.add_sub_cancel]
  have quotes := Fault.quotes_context known below part
  refine ⟨position.column.toNat, quotes, ?_, cuts.column, ?_⟩
  · rw [quotes.pieces_eq]
    rfl
  · rw [cuts.column, ← Text.utf8ByteSize_eq_length_iff, String.ofList_toList, String.length_toList]

/-- The parenthesis that is missing at the end of `f(x` is pointed at behind three characters. -/
theorem parse_caret_aligned :
    let excerpt := "\nf(x\n   ^"
    parse 100 "a.ts" .typeScript "f(x" (fun _ => some unclosed) =
        .error (.unparsed "a.ts" "missing ) (1:3)" excerpt) ∧
      (Text.pieces excerpt).getLast? = some (.ofList (List.replicate "f(x".length ' ' ++ ['^'])) := by
  intro excerpt
  have failed : parse 100 "a.ts" .typeScript "f(x" (fun _ => some unclosed) =
      .error (.unparsed "a.ts" "missing ) (1:3)" excerpt) := by rfl
  have cuts : Position.Cuts ⟨1, 3⟩ "f(x" "f(x" "" := ⟨⟨0, rfl, by decide +kernel⟩, rfl⟩
  obtain ⟨indent, -, last, -, aligned⟩ :=
    parse_caret failed ⟨"missing )", by decide +kernel⟩ cuts (by decide)
  rw [aligned.mpr (by simp)] at last
  exact ⟨failed, last⟩

/-- The tree of `/* 日本語 */ foo bar baz(;`, where what stands behind the comment cannot be placed. -/
def misplaced : Cst.Tree :=
  { Cst.Tree.onFirstRow "program" true 0 29 [
    .onFirstRow "comment" true 0 15 [],
    { Cst.Tree.onFirstRow "ERROR" true 16 28 [
      .onFirstRow "identifier" true 16 19 [],
      .onFirstRow "identifier" true 20 23 [],
      .onFirstRow "identifier" true 24 27 [],
      .onFirstRow "(" false 27 28 []]
      with isError := true, hasError := true },
    .onFirstRow "empty_statement" true 28 29 [.onFirstRow ";" false 28 29 []]]
    with hasError := true }

/-- Behind a comment with characters of three bytes the caret stands six places too far to the right. -/
theorem parse_caret_astray :
    let source := "/* 日本語 */ foo bar baz(;"
    let front := "/* 日本語 */ "
    let excerpt := "\n/* 日本語 */ foo bar baz(;\n                ^"
    parse 100 "dir/broken.ts" .typeScript source (fun _ => some misplaced) =
        .error (.unparsed "dir/broken.ts" "unexpected token (1:16)" excerpt) ∧
      Position.Cuts ⟨1, 16⟩ source front "foo bar baz(;" ∧ front.length = 10 ∧
      (Text.pieces excerpt).getLast? = some (.ofList (List.replicate 16 ' ' ++ ['^'])) ∧
      (Text.pieces excerpt).getLast? ≠ some (.ofList (List.replicate front.length ' ' ++ ['^'])) := by
  have cuts : Position.Cuts ⟨1, 16⟩ "/* 日本語 */ foo bar baz(;" "/* 日本語 */ " "foo bar baz(;" :=
    ⟨⟨0, rfl, by decide +kernel⟩, by decide +kernel⟩
  exact ⟨by rfl, cuts, by decide +kernel, by decide +kernel, by decide +kernel⟩

end SourceFile

end CodeClones
