import CodeClones.Json.Number

/-!
# Tokens of JSON text

The text is cut into tokens, with blanks between them: only the space, the tab, the line feed and
the carriage return count as blank here. Where no token starts, the list ends with `Token.junk`. A
string token has its escapes resolved; it has no content when they leave a surrogate unpaired.
-/

namespace CodeClones.Json

/-- The smallest pieces of a text. -/
inductive Token where
  | openBrace
  | closeBrace
  | openBracket
  | closeBracket
  | comma
  | colon
  | null
  | bool (b : Bool)
  | number (n : Number)
  | string (content : Option String)
  /-- Something that is no token; nothing is read behind it. -/
  | junk
deriving DecidableEq, Repr, Inhabited

/-- A piece of a string as written: a character, or a code unit given by number. -/
inductive Piece where
  | char (c : Char)
  | unit (n : Nat)
deriving DecidableEq, Repr

/-- The number of four hexadecimal digits. -/
def fourHex? (a b c d : Char) : Option Nat :=
  Numeral.digits? 16 [a, b, c, d]

/-- The characters that have an escape of one letter. -/
def shortEscape? : Char → Option Char
  | '"' => some '"'
  | '\\' => some '\\'
  | '/' => some '/'
  | 'b' => some '\x08'
  | 'f' => some '\x0C'
  | 'n' => some '\n'
  | 'r' => some '\r'
  | 't' => some '\t'
  | _ => none

/-- The pieces of a string up to its closing quote, and what follows. Controls have to be escaped. -/
def stringPieces? : List Char → Option (List Piece × List Char)
  | [] => none
  | '"' :: rest => some ([], rest)
  | '\\' :: 'u' :: a :: b :: c :: d :: rest =>
    match fourHex? a b c d with
    | none => none
    | some n => (stringPieces? rest).map fun (pieces, after) => (.unit n :: pieces, after)
  | '\\' :: letter :: rest =>
    match shortEscape? letter with
    | none => none
    | some e => (stringPieces? rest).map fun (pieces, after) => (.char e :: pieces, after)
  | c :: rest =>
    if c = '\\' ∨ c.toNat < 0x20 then none
    else (stringPieces? rest).map fun (pieces, after) => (.char c :: pieces, after)

/-- The characters of a string's pieces: two code units may make one character, and a surrogate by
itself makes none. -/
def joinUnits? : List Piece → Option (List Char)
  | [] => some []
  | .char c :: rest => (joinUnits? rest).map (c :: ·)
  | .unit high :: .unit low :: rest =>
    if 0xD800 ≤ high ∧ high < 0xDC00 then
      if 0xDC00 ≤ low ∧ low < 0xE000 then
        (joinUnits? rest).map
          (Char.ofNat (0x10000 + (high - 0xD800) * 0x400 + (low - 0xDC00)) :: ·)
      else none
    else if 0xDC00 ≤ high ∧ high < 0xE000 then none
    else (joinUnits? (.unit low :: rest)).map (Char.ofNat high :: ·)
  | .unit n :: rest =>
    if 0xD800 ≤ n ∧ n < 0xE000 then none else (joinUnits? rest).map (Char.ofNat n :: ·)

/-- A blank between tokens. -/
def isSpace (c : Char) : Bool :=
  c == ' ' || c == '\t' || c == '\n' || c == '\r'

/-- The tokens of one character. -/
def mark? : Char → Option Token
  | '\x7b' => some .openBrace
  | '\x7d' => some .closeBrace
  | '[' => some .openBracket
  | ']' => some .closeBracket
  | ',' => some .comma
  | ':' => some .colon
  | _ => none

/-- The token at the front of a text that starts with no blank, and what follows. -/
def firstToken? : List Char → Option (Token × List Char)
  | [] => none
  | 'n' :: 'u' :: 'l' :: 'l' :: rest => some (.null, rest)
  | 't' :: 'r' :: 'u' :: 'e' :: rest => some (.bool true, rest)
  | 'f' :: 'a' :: 'l' :: 's' :: 'e' :: rest => some (.bool false, rest)
  | '"' :: rest =>
    (stringPieces? rest).map fun (pieces, after) =>
      (.string ((joinUnits? pieces).map String.ofList), after)
  | c :: rest =>
    match mark? c with
    | some token => some (token, rest)
    | none => (Number.parts? (c :: rest)).map fun (parts, after) => (.number parts.value, after)

/-- Reading up to the end of a string takes some of the text. -/
theorem stringPieces?_length_lt {text : List Char} {pieces : List Piece} {after : List Char}
    (h : stringPieces? text = some (pieces, after)) : after.length < text.length := by
  fun_induction stringPieces? text generalizing pieces with
  | case1 => simp at h
  | case2 rest =>
    simp only [Option.some.injEq, Prod.mk.injEq] at h
    simp [← h.2]
  | case3 => simp at h
  | case4 a b c d rest n hn ih =>
    obtain ⟨⟨ps, tail⟩, hp, he⟩ := Option.map_eq_some_iff.1 h
    simp only [Prod.mk.injEq] at he
    have := ih (he.2 ▸ hp)
    simp only [List.length_cons]
    omega
  | case5 => simp at h
  | case6 letter rest hx e he ih =>
    obtain ⟨⟨ps, tail⟩, hp, hq⟩ := Option.map_eq_some_iff.1 h
    simp only [Prod.mk.injEq] at hq
    have := ih (hq.2 ▸ hp)
    simp only [List.length_cons]
    omega
  | case7 => simp at h
  | case8 c rest _ _ _ hc ih =>
    obtain ⟨⟨ps, tail⟩, hp, he⟩ := Option.map_eq_some_iff.1 h
    simp only [Prod.mk.injEq] at he
    have := ih (he.2 ▸ hp)
    simp only [List.length_cons]
    omega

namespace Number

/-- A run of digits takes some of the text. -/
theorem digitRun?_length_lt {text digits after : List Char}
    (h : digitRun? text = some (digits, after)) : after.length < text.length := by
  unfold digitRun? at h
  split at h
  · simp at h
  · next run hrun =>
    simp only [Option.some.injEq, Prod.mk.injEq] at h
    have key := congrArg List.length (List.takeWhile_append_dropWhile (p := Char.isDigit) (l := text))
    rw [List.length_append] at key
    have : 0 < (text.takeWhile Char.isDigit).length := List.length_pos_iff.2 hrun
    rw [← h.2]
    omega

/-- The whole part of a number takes some of the text. -/
theorem wholePart?_length_lt {text digits after : List Char}
    (h : wholePart? text = some (digits, after)) : after.length < text.length := by
  simp only [wholePart?, Option.bind_eq_bind, Option.bind_eq_some_iff] at h
  obtain ⟨⟨ds, rest⟩, hr, h⟩ := h
  simp only at h
  split at h
  · simp at h
  · simp only [Option.some.injEq, Prod.mk.injEq] at h
    exact h.2 ▸ digitRun?_length_lt hr

/-- What may be a fraction leaves no more text than there was. -/
theorem fractionPart?_length_le {text digits after : List Char}
    (h : fractionPart? text = some (digits, after)) : after.length ≤ text.length := by
  unfold fractionPart? at h
  split at h
  · have := digitRun?_length_lt h
    simp only [List.length_cons]
    omega
  · simp only [Option.some.injEq, Prod.mk.injEq] at h
    simp [h.2]

/-- What may be a sign leaves no more text than there was. -/
theorem splitSign_length_le (text : List Char) :
    (Numeral.splitSign text).2.length ≤ text.length := by
  unfold Numeral.splitSign
  split <;> simp

/-- What may be an exponent leaves no more text than there was. -/
theorem exponentPart?_length_le {text after : List Char} {e : Option (Bool × List Char)}
    (h : exponentPart? text = some (e, after)) : after.length ≤ text.length := by
  unfold exponentPart? at h
  split at h
  · simp only [Option.some.injEq, Prod.mk.injEq] at h
    simp [← h.2]
  · next mark text =>
    split at h
    · obtain ⟨⟨ds, rest⟩, hr, he⟩ := Option.map_eq_some_iff.1 h
      simp only [Prod.mk.injEq] at he
      have h1 := digitRun?_length_lt hr
      have h2 := splitSign_length_le text
      simp only [List.length_cons]
      rw [← he.2]
      omega
    · simp only [Option.some.injEq, Prod.mk.injEq] at h
      simp [← h.2]

/-- A number without sign takes some of the text. -/
theorem unsignedParts?_length_lt {negative : Bool} {text after : List Char} {p : Parts}
    (h : unsignedParts? negative text = some (p, after)) : after.length < text.length := by
  simp only [unsignedParts?, Option.bind_eq_some_iff, Option.map_eq_some_iff] at h
  obtain ⟨⟨ds, t1⟩, h1, ⟨fs, t2⟩, h2, ⟨es, t3⟩, h3, h4⟩ := h
  simp only [Prod.mk.injEq] at h4
  have a := wholePart?_length_lt h1
  have b := fractionPart?_length_le h2
  have c := exponentPart?_length_le h3
  simp only at b c
  rw [← h4.2]
  omega

/-- A number takes at least one character. -/
theorem parts?_length_lt {text after : List Char} {p : Parts}
    (h : parts? text = some (p, after)) : after.length < text.length := by
  unfold parts? at h
  split at h
  · have := unsignedParts?_length_lt h
    simp only [List.length_cons]
    omega
  · exact unsignedParts?_length_lt h

end Number

/-- A token takes at least one character. -/
theorem firstToken?_length_lt {text after : List Char} {token : Token}
    (h : firstToken? text = some (token, after)) : after.length < text.length := by
  unfold firstToken? at h
  split at h
  · simp at h
  · simp only [Option.some.injEq, Prod.mk.injEq] at h
    simp [← h.2]; omega
  · simp only [Option.some.injEq, Prod.mk.injEq] at h
    simp [← h.2]; omega
  · simp only [Option.some.injEq, Prod.mk.injEq] at h
    simp [← h.2]; omega
  · obtain ⟨⟨ps, tail⟩, hp, he⟩ := Option.map_eq_some_iff.1 h
    simp only [Prod.mk.injEq] at he
    have := stringPieces?_length_lt hp
    simp only [List.length_cons]
    rw [← he.2]
    omega
  · split at h
    · simp only [Option.some.injEq, Prod.mk.injEq] at h
      simp [← h.2]
    · obtain ⟨⟨ps, tail⟩, hp, he⟩ := Option.map_eq_some_iff.1 h
      simp only [Prod.mk.injEq] at he
      exact he.2 ▸ Number.parts?_length_lt hp

/-- The tokens of a text. -/
def tokens : List Char → List Token
  | [] => []
  | c :: rest =>
    if isSpace c then tokens rest
    else
      match _h : firstToken? (c :: rest) with
      | none => [.junk]
      | some (token, after) => token :: tokens after
termination_by text => text.length
decreasing_by
  · simp
  · exact firstToken?_length_lt _h

end CodeClones.Json
