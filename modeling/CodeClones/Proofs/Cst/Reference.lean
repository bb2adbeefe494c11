import CodeClones.Cst.Reference
import CodeClones.Proofs.Number.Digits

/-!
# What references denote

A reference denotes a character by a word of the table or by the number of the character, in decimal or in
hexadecimal digits (`Denotes`, `RefersTo`). The reader finds this character in every such text, and in a
text with a plus sign in front of the digits too, but in no other (`bind_referenced?_eq_some_iff`). So every
other text stays as it is written: `decodeReference_refersTo`. A text with a plus sign is no reference, and
is decoded all the same: `decodeReference_plus`.
-/

namespace CodeClones.Cst

open Numeral (Writes SpelledAs signs)

/-- What stands between the ampersand and the semicolon of a reference, and the character that it denotes:
a word, or digits behind a sign. -/
inductive Denotes (sign : List Char) : List Char → Char → Prop where
  | word {name c} :
    (name, c) ∈ namedCharacters →
    Denotes sign name.toList c
  | decimal {digits c} :
    Writes 10 digits c.toNat →
    Denotes sign ('#' :: (sign ++ digits)) c
  | hexadecimal {mark digits c} :
    mark = 'x' ∨ mark = 'X' →
    Writes 16 digits c.toNat →
    Denotes sign ('#' :: mark :: (sign ++ digits)) c

/-- A text that is a reference to a character. -/
def RefersTo (sign : List Char) (raw : String) (c : Char) : Prop :=
  ∃ body, raw.toList = '&' :: (body ++ [';']) ∧ Denotes sign body c

section Numbers

variable {n : Nat} {c : Char}

/-- A number has the character whose code it is, and no other. -/
lemma scalar?_eq_some_iff : scalar? n = some c ↔ n = c.toNat := by
  rw [scalar?]
  constructor
  · intro h
    split_ifs at h with valid
    cases h
    rw [Char.ofNat, dif_pos valid]
    rfl
  · rintro rfl
    have valid : c.toNat.isValidChar := c.valid
    rw [if_pos valid, Char.ofNat_toNat]

/-- The code of every character is below the limit for codes. -/
lemma toNat_lt_codeLimit (c : Char) : c.toNat < codeLimit := c.val.toNat_lt

/-- Every character has a number below the limit, so the limit turns no reference down. -/
lemma bind_scalar?_eq_some_iff {base : Nat} {text : List Char} (thirtySix : base ≤ 36) :
    (Numeral.whole? base codeLimit text).bind scalar? = some c ↔
      ∃ sign ∈ signs, ∃ digits, text = sign ++ digits ∧ Writes base digits c.toNat := by
  simp only [Option.bind_eq_some_iff, scalar?_eq_some_iff]
  constructor
  · rintro ⟨_, read, rfl⟩
    exact ((Numeral.whole?_eq_some_iff thirtySix).mp read).2
  · intro written
    exact ⟨_, (Numeral.whole?_eq_some_iff thirtySix).mpr ⟨toNat_lt_codeLimit c, written⟩, rfl⟩

/-- Decimal digits start with no letter, with a sign or without. -/
lemma head_ne_letter {sign digits : List Char} {letter : Char} (mem : sign ∈ signs)
    (written : Writes 10 digits n) (noSign : letter ≠ '+')
    (noDigit : Numeral.isDigitOf 10 letter = false) : (sign ++ digits).head? ≠ some letter := by
  intro head
  simp only [signs, List.mem_cons, List.not_mem_nil, or_false] at mem
  rcases mem with rfl | rfl
  · have digit := written.digits letter (List.mem_of_head? head)
    rw [noDigit] at digit
    cases digit
  · exact noSign (Option.some.inj head).symm

end Numbers

section Bodies

variable {body : List Char} {c : Char}

/-- Without an `x` behind the hash sign, digits are decimal. -/
lemma referenced?_decimal {text : List Char} (small : text.head? ≠ some 'x')
    (capital : text.head? ≠ some 'X') :
    referenced? ('#' :: text) = (Numeral.whole? 10 codeLimit text).bind scalar? := by
  unfold referenced?
  split
  · next same =>
    cases same
    exact absurd rfl small
  · next same =>
    cases same
    exact absurd rfl capital
  · next same =>
    cases same
    rfl
  · next other => exact absurd rfl (other text)

/-- What is found for the body of a reference is what it denotes, behind a sign or without one. -/
lemma referenced?_eq_some_iff : referenced? body = some c ↔ ∃ sign ∈ signs, Denotes sign body c := by
  constructor
  · intro h
    unfold referenced? at h
    split at h
    · obtain ⟨sign, mem, digits, rfl, written⟩ := (bind_scalar?_eq_some_iff (by decide)).mp h
      exact ⟨sign, mem, .hexadecimal (.inl rfl) written⟩
    · obtain ⟨sign, mem, digits, rfl, written⟩ := (bind_scalar?_eq_some_iff (by decide)).mp h
      exact ⟨sign, mem, .hexadecimal (.inr rfl) written⟩
    · obtain ⟨sign, mem, digits, rfl, written⟩ := (bind_scalar?_eq_some_iff (by decide)).mp h
      exact ⟨sign, mem, .decimal written⟩
    · obtain ⟨front, back, table, -⟩ := List.lookup_eq_some_iff.mp h
      have listed : (String.ofList body, c) ∈ namedCharacters :=
        table ▸ List.mem_append_right front List.mem_cons_self
      exact ⟨[], by decide, String.toList_ofList (l := body) ▸ .word listed⟩
  · rintro ⟨sign, mem, denotes⟩
    cases denotes with
    | @word name _ listed =>
      have each : ∀ entry ∈ namedCharacters, referenced? entry.1.toList = some entry.2 := by
        decide +kernel
      exact each (name, c) listed
    | @decimal digits _ written =>
      have small : (sign ++ digits).head? ≠ some 'x' :=
        head_ne_letter mem written (by decide) (by decide)
      have capital : (sign ++ digits).head? ≠ some 'X' :=
        head_ne_letter mem written (by decide) (by decide)
      rw [referenced?_decimal small capital]
      exact (bind_scalar?_eq_some_iff (by decide)).mpr ⟨sign, mem, digits, rfl, written⟩
    | @hexadecimal mark digits _ marked written =>
      have read := (bind_scalar?_eq_some_iff (by decide)).mpr ⟨sign, mem, digits, rfl, written⟩
      rcases marked with rfl | rfl
      · exact read
      · exact read

/-- The body of a reference is what stands between an ampersand and a semicolon. -/
lemma referenceBody?_eq_some_iff {chars : List Char} :
    referenceBody? chars = some body ↔ chars = '&' :: (body ++ [';']) := by
  constructor
  · intro h
    unfold referenceBody? at h
    split at h
    · split_ifs at h with last
      cases h
      rw [List.dropLast_append_getLast? ';' last]
    · cases h
  · rintro rfl
    rw [referenceBody?, if_pos List.getLast?_concat, List.dropLast_concat]

end Bodies

section Texts

variable {raw : String} {c : Char}

/-- A character is found for just the texts that refer to it, with a sign or without. -/
lemma bind_referenced?_eq_some_iff :
    (referenceBody? raw.toList).bind referenced? = some c ↔ ∃ sign ∈ signs, RefersTo sign raw c := by
  simp only [Option.bind_eq_some_iff, referenceBody?_eq_some_iff, referenced?_eq_some_iff, RefersTo]
  constructor
  · rintro ⟨body, same, sign, mem, denotes⟩
    exact ⟨sign, mem, body, same, denotes⟩
  · rintro ⟨sign, mem, body, same, denotes⟩
    exact ⟨body, same, sign, mem, denotes⟩

/-- A text that refers to a character is decoded to it. -/
lemma decodeReference_eq {sign : List Char} (mem : sign ∈ signs) (refers : RefersTo sign raw c) :
    decodeReference raw = c.toString := by
  rw [decodeReference, bind_referenced?_eq_some_iff.mpr ⟨sign, mem, refers⟩]

/-- A text that refers to no character is kept as it is written. -/
lemma decodeReference_eq_self (noDigits : ∀ c, ¬ RefersTo [] raw c)
    (noSign : ∀ c, ¬ RefersTo ['+'] raw c) : decodeReference raw = raw := by
  have none : (referenceBody? raw.toList).bind referenced? = Option.none := by
    rw [Option.eq_none_iff_forall_ne_some]
    intro c found
    obtain ⟨sign, mem, refers⟩ := bind_referenced?_eq_some_iff.mp found
    simp only [signs, List.mem_cons, List.not_mem_nil, or_false] at mem
    rcases mem with rfl | rfl
    · exact noDigits c refers
    · exact noSign c refers
  rw [decodeReference, none]

/-- A reference has at least two characters. -/
lemma RefersTo.ne_toString {sign : List Char} (h : RefersTo sign raw c) (d : Char) :
    d.toString ≠ raw := by
  rintro rfl
  obtain ⟨body, same, -⟩ := h
  have lengths := congrArg List.length same
  rw [Char.toString_eq_singleton, String.toList_singleton, List.length_cons, List.length_cons,
    List.length_append, List.length_singleton, List.length_nil] at lengths
  omega

variable {zeros : Nat}

/-- The decimal digits of a code, with zeros in front, refer to its character. -/
lemma refersTo_decimal (h : raw.toList =
    '&' :: '#' :: (List.replicate zeros '0' ++ Nat.toDigits 10 c.toNat ++ [';'])) :
    RefersTo [] raw c := by
  have written := Numeral.writes_padded (by decide : 1 < 10) (by decide) zeros c.toNat
  exact ⟨_, h, .decimal written⟩

/-- The hexadecimal digits of a code, in capitals or not and with zeros in front, refer to its
character. -/
lemma refersTo_hexadecimal {mark : Char} {text : List Char} (marked : mark = 'x' ∨ mark = 'X')
    (spelled : SpelledAs (List.replicate zeros '0' ++ Nat.toDigits 16 c.toNat) text)
    (h : raw.toList = '&' :: '#' :: mark :: (text ++ [';'])) : RefersTo [] raw c := by
  have written := Numeral.writes_padded (by decide : 1 < 16) (by decide) zeros c.toNat
  exact ⟨_, h, .hexadecimal marked (written.spelledAs spelled)⟩

end Texts

/-- A reference is decoded to the character that it denotes. What is no reference stays as it is written,
unless it is one but for a plus sign in front of the digits: then it is decoded as if the sign were not
there. In particular every character is found again when it is written with decimal or with hexadecimal
digits, behind zeros and with any letters as capitals. -/
theorem decodeReference_refersTo (raw : String) :
    (∀ c, RefersTo [] raw c → decodeReference raw = c.toString) ∧
    ((∀ c, ¬ RefersTo [] raw c) →
      (decodeReference raw = raw ↔ ∀ c, ¬ RefersTo ['+'] raw c)) ∧
    (∀ c, RefersTo ['+'] raw c → decodeReference raw = c.toString) ∧
    (∀ (c : Char) (zeros : Nat), raw.toList =
        '&' :: '#' :: (List.replicate zeros '0' ++ Nat.toDigits 10 c.toNat ++ [';']) →
      decodeReference raw = c.toString) ∧
    ∀ (c : Char) (zeros : Nat) (mark : Char) (text : List Char), mark = 'x' ∨ mark = 'X' →
      SpelledAs (List.replicate zeros '0' ++ Nat.toDigits 16 c.toNat) text →
      raw.toList = '&' :: '#' :: mark :: (text ++ [';']) →
      decodeReference raw = c.toString := by
  have decoded : ∀ c, RefersTo [] raw c → decodeReference raw = c.toString :=
    fun c refers => decodeReference_eq (by decide) refers
  have signed : ∀ c, RefersTo ['+'] raw c → decodeReference raw = c.toString :=
    fun c refers => decodeReference_eq (by decide) refers
  refine ⟨decoded, ?_, signed, ?_, ?_⟩
  · intro noDigits
    constructor
    · intro kept c refers
      exact refers.ne_toString c ((signed c refers).symm.trans kept)
    · exact decodeReference_eq_self noDigits
  · intro c zeros written
    exact decoded c (refersTo_decimal written)
  · intro c zeros mark text marked spelled written
    exact decoded c (refersTo_hexadecimal marked spelled written)

/-- A word, a number with zeros in front and letters of both kinds, and a number that no character has. -/
theorem decodeReference_refersTo_sample :
    decodeReference "&hellip;" = "\u2026" ∧
      decodeReference "&#X0001f60A;" = (Char.ofNat 0x1F60A).toString ∧
      decodeReference "&#xD800;" = "&#xD800;" := by
  have word : RefersTo [] "&hellip;" '\u2026' := ⟨"hellip".toList, rfl, .word (by decide)⟩
  have spelled : SpelledAs (List.replicate 3 '0' ++ Nat.toDigits 16 (Char.ofNat 0x1F60A).toNat)
      "0001f60A".toList := by decide +kernel
  have noCharacter : (referenceBody? "&#xD800;".toList).bind referenced? = none := by decide +kernel
  have other : ∀ c, ∀ sign ∈ signs, ¬ RefersTo sign "&#xD800;" c := by
    intro c sign mem refers
    have found := bind_referenced?_eq_some_iff.mpr ⟨sign, mem, refers⟩
    rw [noCharacter] at found
    cases found
  refine ⟨(decodeReference_refersTo _).1 _ word, ?_, ?_⟩
  · exact (decodeReference_refersTo _).2.2.2.2 _ 3 'X' _ (.inr rfl) spelled rfl
  · apply ((decodeReference_refersTo _).2.1 _).mpr
    · intro c
      exact other c ['+'] (by decide)
    · intro c
      exact other c [] (by decide)

/-- Digits behind a plus sign are read like digits without one, although such a text is no reference to any
character. -/
theorem decodeReference_plus :
    decodeReference "&#+65;" = "A" ∧ ¬ ∃ c, RefersTo [] "&#+65;" c := by
  refine ⟨by decide +kernel, ?_⟩
  rintro ⟨c, body, same, denotes⟩
  have shape : body = ['#', '+', '6', '5'] :=
    List.append_cancel_right (List.cons.inj (same.symm.trans rfl)).2
  have noName : ∀ entry ∈ namedCharacters, entry.1.toList ≠ ['#', '+', '6', '5'] := by decide +kernel
  cases denotes with
  | word listed => exact noName _ listed shape
  | decimal written =>
    cases shape
    exact absurd (written.digits '+' List.mem_cons_self) (by decide)
  | hexadecimal marked _ =>
    cases shape
    exact absurd marked (by decide)

end CodeClones.Cst
