import CodeClones.Text.Indent
import CodeClones.Text.Slice
import Mathlib.Tactic.Lemma
import Mathlib.Tactic.SplitIfs

/-!
# Bytes of a text

How the bytes of a text lie to its characters. The bytes tell the text (`toList_toUTF8_inj`), a text has a slice
behind each of its characters (`slice?_append`), and in front of a line there are as many bytes of spaces and tabs
as there are such characters (`all_take_bytes_iff`).
-/

namespace CodeClones.Text

/-! ### Lists of bytes -/

/-- The loop adds the bytes from an index on to those that it has read. -/
lemma toList_loop_eq (bytes : ByteArray) (i : Nat) (read : List UInt8) :
    ByteArray.toList.loop bytes i read = read.reverse ++ bytes.data.toList.drop i := by
  induction i, read using ByteArray.toList.loop.induct bytes with
  | case1 i read inside ih =>
    have here : i < bytes.data.toList.length := inside
    have byte : bytes.get! i = bytes.data.toList[i] := getElem!_pos bytes.data i inside
    rw [ByteArray.toList.loop, if_pos inside, ih, List.drop_eq_getElem_cons here, byte,
      List.reverse_cons, List.append_assoc]
    rfl
  | case2 i read outside =>
    have past : bytes.data.toList.length ≤ i := Nat.not_lt.mp outside
    rw [ByteArray.toList.loop, if_neg outside, List.drop_eq_nil_of_le past, List.append_nil]

/-- The bytes of an array, in order. -/
lemma toList_bytes (bytes : ByteArray) : bytes.toList = bytes.data.toList :=
  toList_loop_eq bytes 0 []

/-- The bytes of a text are those of its characters one after the other. -/
lemma toList_toUTF8 (text : String) :
    text.toUTF8.toList = text.toList.flatMap String.utf8EncodeChar := by
  have encoded : text.toUTF8 = text.toList.utf8Encode := by
    rw [String.toUTF8_eq_toByteArray, ← String.toByteArray_ofList, String.ofList_toList]
  rw [toList_bytes, encoded]
  exact List.toList_data_toByteArray

/-- A text can be told from its bytes. -/
lemma toList_toUTF8_inj {s t : String} : s.toUTF8.toList = t.toUTF8.toList ↔ s = t := by
  rw [toList_bytes, toList_bytes, Array.toList_inj]
  constructor
  · intro same
    exact String.toByteArray_inj.mp (ByteArray.ext same)
  · rintro rfl
    rfl

/-! ### Numbers of bytes -/

/-- The bytes of the first character add to those of the others. -/
lemma utf8ByteSize_ofList_cons (c : Char) (chars : List Char) :
    (String.ofList (c :: chars)).utf8ByteSize = c.utf8Size + (String.ofList chars).utf8ByteSize := by
  have apart : String.ofList (c :: chars) = String.singleton c ++ String.ofList chars := by
    rw [String.singleton_eq_ofList, ← String.ofList_append]
    rfl
  rw [apart, String.utf8ByteSize_append, String.utf8ByteSize_singleton]

/-- A text has at least as many bytes as characters. -/
lemma length_le_utf8ByteSize (chars : List Char) :
    chars.length ≤ (String.ofList chars).utf8ByteSize := by
  induction chars with
  | nil => exact Nat.zero_le _
  | cons c chars ih =>
    have positive := c.utf8Size_pos
    rw [List.length_cons, utf8ByteSize_ofList_cons]
    omega

/-- A text has as many bytes as characters just when all of these are in the seven-bit range. -/
lemma utf8ByteSize_eq_length_iff (chars : List Char) :
    (String.ofList chars).utf8ByteSize = chars.length ↔ ∀ c ∈ chars, c.toNat ≤ 127 := by
  induction chars with
  | nil => simp
  | cons c chars ih =>
    have positive := c.utf8Size_pos
    have rest := length_le_utf8ByteSize chars
    have single : c.utf8Size = 1 ↔ c.toNat ≤ 127 := Char.utf8Size_eq_one_iff
    rw [List.forall_mem_cons, ← ih, ← single, utf8ByteSize_ofList_cons, List.length_cons]
    omega

/-- A text has a slice behind any of its characters. -/
lemma slice?_append (lead rest : String) :
    slice? (lead ++ rest) lead.utf8ByteSize (lead ++ rest).utf8ByteSize = some rest := by
  have bytes : (lead ++ rest).toUTF8 = lead.toByteArray ++ rest.toByteArray :=
    String.toByteArray_append
  have cut : (lead.toByteArray ++ rest.toByteArray).extract lead.utf8ByteSize
      (lead ++ rest).utf8ByteSize = rest.toByteArray := by
    apply ByteArray.extract_append_eq_right
    · exact String.size_toByteArray.symm
    · rw [String.utf8ByteSize_append, String.size_toByteArray, String.size_toByteArray]
  have order : lead.utf8ByteSize ≤ (lead ++ rest).utf8ByteSize ∧
      (lead ++ rest).utf8ByteSize ≤ (lead ++ rest).toUTF8.size := by
    rw [String.utf8ByteSize_append]
    refine ⟨Nat.le_add_right _ _, ?_⟩
    rw [← String.utf8ByteSize_append]
    exact Nat.le_of_eq String.size_toByteArray.symm
  rw [slice?, if_pos order, bytes, cut]
  exact dif_pos rest.isValidUTF8

/-! ### Bytes of indentation -/

/-- The byte of a space or a tab. -/
def isIndentByte (b : UInt8) : Bool :=
  b == 0x20 || b == 0x09

/-- A byte of the seven-bit range is indentation just when its character is. -/
lemma isIndentByte_of_small {c : Char} (small : c.toNat ≤ 127) :
    isIndentByte (.ofNat c.toNat) = isIndent c := by
  have each : ∀ n < 128, isIndentByte (.ofNat n) = isIndent (Char.ofNat n) := by decide
  have this := each c.toNat (Nat.lt_succ_of_le small)
  rwa [Char.ofNat_toNat] at this

/-- No byte of a longer character is indentation. -/
lemma isIndentByte_of_large {b : UInt8} (large : 128 ≤ b.toNat) : isIndentByte b = false := by
  rw [isIndentByte, Bool.or_eq_false_iff, beq_eq_false_iff_ne, beq_eq_false_iff_ne]
  constructor
  · rintro rfl
    exact absurd large (by decide)
  · rintro rfl
    exact absurd large (by decide)

/-- All characters but the first hundred and twenty-eight start with a byte beyond these. -/
lemma utf8EncodeChar_large {c : Char} (large : ¬ c.toNat ≤ 127) :
    ∃ b rest, String.utf8EncodeChar c = b :: rest ∧ 128 ≤ b.toNat := by
  have more : ¬ c.val.toNat ≤ 127 := large
  simp only [String.utf8EncodeChar, if_neg more]
  split_ifs
  all_goals
    refine ⟨_, _, rfl, ?_⟩
    rw [UInt8.toNat_ofNat']
    omega

/-- Spaces and tabs are single bytes, and no other character starts with one of these. -/
lemma utf8EncodeChar_cases (c : Char) :
    (isIndent c ∧ ∃ b, String.utf8EncodeChar c = [b] ∧ isIndentByte b) ∨
      isIndent c = false ∧ ∃ b rest, String.utf8EncodeChar c = b :: rest ∧ isIndentByte b = false := by
  by_cases small : c.toNat ≤ 127
  · have single : String.utf8EncodeChar c = [.ofNat c.toNat] := if_pos small
    have byte := isIndentByte_of_small small
    cases indent : isIndent c with
    | true => exact .inl ⟨rfl, _, single, byte.trans indent⟩
    | false => exact .inr ⟨rfl, _, [], single, byte.trans indent⟩
  · obtain ⟨b, rest, bytes, large⟩ := utf8EncodeChar_large small
    refine .inr ⟨?_, b, rest, bytes, isIndentByte_of_large large⟩
    rw [isIndent, Bool.or_eq_false_iff, beq_eq_false_iff_ne, beq_eq_false_iff_ne]
    constructor
    · rintro rfl
      exact small (by decide)
    · rintro rfl
      exact small (by decide)

/-- Indentation of a given width can be found on the bytes as on the characters. -/
lemma all_take_bytes_iff {width : Nat} {chars : List Char} :
    (width ≤ (chars.flatMap String.utf8EncodeChar).length ∧
        ((chars.flatMap String.utf8EncodeChar).take width).all isIndentByte) ↔
      width ≤ (chars.takeWhile isIndent).length := by
  induction chars generalizing width with
  | nil => simp
  | cons c chars ih =>
    cases width with
    | zero => simp
    | succ width =>
      rcases utf8EncodeChar_cases c with ⟨indent, b, single, isByte⟩ | ⟨other, b, rest, more, noByte⟩
      · rw [List.flatMap_cons, single, List.takeWhile_cons_of_pos indent, List.length_cons,
          Nat.succ_le_succ_iff, ← ih]
        simp [isByte]
      · rw [List.flatMap_cons, more, List.takeWhile_cons_of_neg (by simp [other])]
        simp [noByte]

end CodeClones.Text
