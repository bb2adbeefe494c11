import CodeClones.Json.Value
import CodeClones.Proofs.Json.Parsing
import CodeClones.Proofs.Number.Digits

/-!
# Writing is a way of spelling

The text that is written for a value is one of its spellings: every escape is undone, digits stand for
the number they were made of, and tokens follow each other without blanks. So a written text is read as
the value it was written for. The main statements are `Value.spelled_text` and, for the numbers that
have a value of their own, `Number.value_toDigits`.
-/

namespace CodeClones.Json

/-! ### Digits -/

namespace Number

/-- Digits of a number of sixty-four bits are all taken. -/
lemma absorb_eq {digits : List Char} {n : Nat}
    (h : digits.foldl (fun n c => n * 10 + Numeral.digitValue c) n < 0x10000000000000000) :
    absorb n digits =
      (digits.foldl (fun n c => n * 10 + Numeral.digitValue c) n, digits.length) := by
  induction digits generalizing n with
  | nil => rfl
  | cons c rest ih =>
    have ten : 0 < 10 := by decide
    have fits := Nat.lt_of_le_of_lt
      (Numeral.le_foldl_digits ten rest (n * 10 + Numeral.digitValue c)) h
    simp only [absorb, if_pos fits, ih h, List.foldl_cons, List.length_cons]

/-- The digits of a number of sixty-four bits have the number as their value. -/
theorem value_toDigits {n : Nat} (h : n < 0x10000000000000000) :
    Parts.value ⟨false, Nat.toDigits 10 n, [], none⟩ = .whole n := by
  have value : (Nat.toDigits 10 n).foldl (fun n c => n * 10 + Numeral.digitValue c) 0 = n :=
    Numeral.ofDigits_toDigits (by decide) (by decide) n
  have taken := absorb_eq (value.symm ▸ h)
  rw [value] at taken
  simp [Parts.value, taken]

/-- The digits of a number spell a whole part without sign, fraction and exponent. -/
lemma spelled_toDigits (n : Nat) :
    Parts.Spelled ⟨false, Nat.toDigits 10 n, [], none⟩ (Nat.toDigits 10 n) := by
  have digits : IsDigitRun (Nat.toDigits 10 n) :=
    ⟨Nat.toDigits_ne_nil, fun c hc => Nat.isDigit_of_mem_toDigits (by decide) (by decide) hc⟩
  have noZero : (Nat.toDigits 10 n).head? = some '0' → Nat.toDigits 10 n = ['0'] := by
    intro zero
    cases n with
    | zero => rfl
    | succ n => exact absurd zero (Numeral.head_toDigits (by decide) (Nat.succ_pos n))
  have text : Parts.Spelled ⟨false, Nat.toDigits 10 n, [], none⟩ _ :=
    .intro rfl digits noZero .absent .absent
  simpa using text

end Number

/-! ### Strings -/

/-- A code unit that is no surrogate makes a character of its own. -/
lemma joinUnits?_unit {n : Nat} (h : n < 0xD800) (rest : List Piece) :
    joinUnits? (.unit n :: rest) = (joinUnits? rest).map (Char.ofNat n :: ·) := by
  have low : ¬ (0xD800 ≤ n ∧ n < 0xDC00) := by omega
  have high : ¬ (0xDC00 ≤ n ∧ n < 0xE000) := by omega
  have surrogate : ¬ (0xD800 ≤ n ∧ n < 0xE000) := by omega
  cases rest with
  | nil => simp [joinUnits?, surrogate]
  | cons piece rest =>
    cases piece with
    | char c => simp [joinUnits?, surrogate]
    | unit m => rw [joinUnits?, if_neg low, if_neg high]

/-- The four digits that are written for a control character denote its code. -/
lemma fourHex?_control {n : Nat} (h : n < 0x20) :
    fourHex? '0' '0' (hexDigit (n / 16)) (hexDigit (n % 16)) = some n := by
  have each : ∀ m < 0x20, fourHex? '0' '0' (hexDigit (m / 16)) (hexDigit (m % 16)) = some m := by
    decide
  exact each n h

/-- What is written for a character is a piece that stands for it. -/
lemma exists_piece (c : Char) :
    ∃ piece : Piece, piece.Spelled (escapeChar c) ∧
      ∀ rest, joinUnits? (piece :: rest) = (joinUnits? rest).map (c :: ·) := by
  have char {c : Char} (rest : List Piece) :
      joinUnits? (.char c :: rest) = (joinUnits? rest).map (c :: ·) := by rw [joinUnits?]
  unfold escapeChar
  -- seven characters have an escape of one letter; the other controls are written by number
  split
  iterate 7 exact ⟨_, .short rfl, char⟩
  · next quote escape _ _ _ _ _ =>
    split_ifs with control
    · refine ⟨_, .unit (fourHex?_control control), fun rest => ?_⟩
      rw [joinUnits?_unit (by omega), Char.ofNat_toNat]
    · exact ⟨_, .plain (Nat.not_lt.mp control) quote escape, char⟩

/-- What is written for a text is a row of pieces that stand for its characters together. -/
lemma exists_pieces (chars : List Char) :
    ∃ pieces texts, List.Forall₂ Piece.Spelled pieces texts ∧
      texts.flatten = chars.flatMap escapeChar ∧ joinUnits? pieces = some chars := by
  induction chars with
  | nil => exact ⟨[], [], .nil, rfl, by rw [joinUnits?]⟩
  | cons c rest ih =>
    obtain ⟨piece, spelled, joined⟩ := exists_piece c
    obtain ⟨pieces, texts, all_spelled, written, all_joined⟩ := ih
    refine ⟨piece :: pieces, escapeChar c :: texts, .cons spelled all_spelled, ?_, ?_⟩
    · rw [List.flatten_cons, written, List.flatMap_cons]
    · rw [joined, all_joined, Option.map_some]

/-- What is written for a text spells a string with that text. -/
lemma spelled_stringChars (text : String) :
    Token.Spelled (.string (some text)) (stringChars text) := by
  obtain ⟨pieces, texts, spelled, written, joined⟩ := exists_pieces text.toList
  have token := Token.Spelled.string spelled
  rwa [joined, Option.map_some, String.ofList_toList, written] at token

/-! ### Values -/

/-- A number of thirty-two bits is read as itself. -/
lemma Reading.toUInt32_whole (n : UInt32) : (number (.whole n.toNat)).toUInt32 = .ok n := by
  have small := n.toNat_lt
  have range : (0 : Int) ≤ n.toNat ∧ (n.toNat : Int) < 0x100000000 := by omega
  rw [toUInt32, if_pos range]
  simp

/-- A token in one of its spellings needs no blanks around it. -/
lemma Spaced.single {token : Token} {word : List Char} (h : token.Spelled word) :
    Spaced [token] word := by
  have spaced : Spaced [token] ([] ++ (word ++ [])) := .cons nofun h (.nil nofun)
  rwa [List.nil_append, List.append_nil] at spaced

/-- Rows of tokens can be written one behind the other. -/
lemma Spaced.append {toks toks' : List Token} {text text' : List Char} (h : Spaced toks text)
    (h' : Spaced toks' text') : Spaced (toks ++ toks') (text ++ text') := by
  induction h with
  | @nil blanks hb =>
    cases h' with
    | nil hb' => exact .nil (List.forall_mem_append.mpr ⟨hb, hb'⟩)
    | cons hb' ht rest =>
      rw [← List.append_assoc]
      exact .cons (List.forall_mem_append.mpr ⟨hb, hb'⟩) ht rest
  | cons hb ht _ ih =>
    rw [List.append_assoc, List.append_assoc]
    exact .cons hb ht ih

/-- A mark can be written right in front of what follows. -/
lemma Spaced.mark {c : Char} {token : Token} {toks : List Token} {text : List Char}
    (h : mark? c = some token) (rest : Spaced toks text) : Spaced (token :: toks) (c :: text) :=
  (Spaced.single (.mark h)).append rest

namespace Value

mutual

/-- What a value that is written says when it is read. -/
def reading : Value → Reading
  | number n => .number (Number.Parts.value ⟨false, Nat.toDigits 10 n, [], none⟩)
  | string text => .string (some text)
  | array items => .array (itemsReading items) true
  | object members => .object (membersReading members) true

def itemsReading : List Value → List Reading
  | [] => []
  | item :: rest => reading item :: itemsReading rest

def membersReading : List (String × Value) → List (Option String × Reading)
  | [] => []
  | (key, value) :: rest => (some key, reading value) :: membersReading rest

end

/-- A string that is written says its text. -/
@[simp]
lemma reading_string (text : String) : (string text).reading = .string (some text) := rfl

/-- A number of thirty-two bits that is written says that whole number. -/
@[simp]
lemma reading_uint32 (n : UInt32) : (number n.toNat).reading = .number (.whole n.toNat) := by
  rw [reading, Number.value_toDigits (Nat.lt_trans n.toNat_lt (by decide))]

/-- An array that is written says what its items say, in order. -/
@[simp]
lemma reading_array (items : List Value) :
    (array items).reading = .array (items.map reading) true := by
  rw [reading]
  congr 1
  induction items with
  | nil => rfl
  | cons item rest ih => rw [itemsReading, ih, List.map_cons]

/-- An object that is written says what its members say, in order. -/
@[simp]
lemma reading_object (members : List (String × Value)) :
    (object members).reading =
      .object (members.map fun member => (some member.1, member.2.reading)) true := by
  rw [reading]
  congr 1
  induction members with
  | nil => rfl
  | cons member rest ih => rw [membersReading, ih, List.map_cons]

mutual

/-- What a written value says is intact. -/
lemma isIntact_reading : ∀ value : Value, value.reading.isIntact
  | number _ => rfl
  | string _ => rfl
  | array items => by
    rw [reading, Reading.isIntact, areIntact_items items]
    rfl
  | object members => by
    rw [reading, Reading.isIntact, membersIntact_members members]
    rfl

/-- What written items say is intact. -/
lemma areIntact_items : ∀ items : List Value, Reading.areIntact (itemsReading items)
  | [] => rfl
  | item :: rest => by
    rw [itemsReading, Reading.areIntact, isIntact_reading item, areIntact_items rest]
    rfl

/-- What written members say is intact. -/
lemma membersIntact_members :
    ∀ members : List (String × Value), Reading.membersIntact (membersReading members)
  | [] => rfl
  | (key, value) :: rest => by
    rw [membersReading, Reading.membersIntact, isIntact_reading value, membersIntact_members rest]
    rfl

end

mutual

/-- A value is written as its tokens one after the other. -/
lemma spaced_chars : ∀ value : Value, Spaced value.reading.tokens value.chars
  | number n => .single (.number (Number.spelled_toDigits n))
  | string text => .single (spelled_stringChars text)
  | array items => by
    rw [reading, Reading.tokens, chars]
    exact .mark rfl ((spaced_items items).append (.single (.mark rfl)))
  | object members => by
    rw [reading, Reading.tokens, chars]
    exact .mark rfl ((spaced_members members).append (.single (.mark rfl)))

/-- Items are written as their tokens with commas between them. -/
lemma spaced_items :
    ∀ items : List Value, Spaced (Reading.itemsTokens (itemsReading items)) (itemsChars items)
  | [] => .nil nofun
  | [item] => spaced_chars item
  | item :: next :: rest => (spaced_chars item).append (.mark rfl (spaced_items (next :: rest)))

/-- Members are written as their tokens with commas between them. -/
lemma spaced_members :
    ∀ members : List (String × Value),
      Spaced (Reading.membersTokens (membersReading members)) (membersChars members)
  | [] => .nil nofun
  | [(key, value)] => (Spaced.single (spelled_stringChars key)).append (.mark rfl (spaced_chars value))
  | (key, value) :: next :: rest =>
    ((Spaced.single (spelled_stringChars key)).append (.mark rfl (spaced_chars value))).append
      (.mark rfl (spaced_members (next :: rest)))

end

/-- The text that is written for a value spells it. -/
theorem spelled_text (value : Value) : value.reading.Spelled value.text := by
  refine ⟨isIntact_reading value, ?_⟩
  rw [text, String.toList_ofList]
  exact spaced_chars value

end Value

end CodeClones.Json
