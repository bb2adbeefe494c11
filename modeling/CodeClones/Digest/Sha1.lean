/-!
# SHA-1

The digest of a list of bytes: five words of thirty-two bits, written as forty lower-case
hexadecimal digits. The message is padded with one set bit, zeros and its length in bits to whole
blocks of sixty-four bytes, and each block is mixed into the words in eighty rounds.
-/

namespace CodeClones.Sha1

/-- The five words of a digest. -/
structure State where
  a : UInt32
  b : UInt32
  c : UInt32
  d : UInt32
  e : UInt32
deriving DecidableEq, Repr

/-- The words a digest starts from. -/
def State.start : State :=
  ⟨0x67452301, 0xEFCDAB89, 0x98BADCFE, 0x10325476, 0xC3D2E1F0⟩

/-- Rotates a word to the left. -/
def rotate (n : UInt32) (w : UInt32) : UInt32 :=
  (w <<< n) ||| (w >>> (32 - n))

/-- A number as eight bytes, the most significant first. -/
def lengthBytes (n : Nat) : List UInt8 :=
  (List.range 8).reverse.map fun i => .ofNat (n / Nat.pow 256 i)

/-- The message with its padding, a whole number of blocks. -/
def pad (message : List UInt8) : List UInt8 :=
  let size := message.length
  let gap := (119 - size % 64) % 64
  message ++ [0x80] ++ List.replicate gap 0 ++ lengthBytes (8 * size)

/-- Bytes in fours as words, the most significant byte first. -/
def words : List UInt8 → List UInt32
  | p :: q :: r :: s :: rest =>
    (p.toUInt32 <<< 24 ||| q.toUInt32 <<< 16 ||| r.toUInt32 <<< 8 ||| s.toUInt32) :: words rest
  | _ => []

/-- The next word of a schedule, from those sixteen, fourteen, eight and three before it. -/
def nextWord (schedule : Array UInt32) : UInt32 :=
  let back (n : Nat) := schedule.getD (schedule.size - n) 0
  rotate 1 (back 3 ^^^ back 8 ^^^ back 14 ^^^ back 16)

/-- The eighty words of a block's schedule. -/
def schedule (block : List UInt32) : Array UInt32 :=
  (List.range 64).foldl (fun w _ => w.push (nextWord w)) block.toArray

/-- The function and the constant of a round. -/
def roundTerm (i : Nat) (s : State) : UInt32 × UInt32 :=
  if i < 20 then ((s.b &&& s.c) ||| (~~~s.b &&& s.d), 0x5A827999)
  else if i < 40 then (s.b ^^^ s.c ^^^ s.d, 0x6ED9EBA1)
  else if i < 60 then ((s.b &&& s.c) ||| (s.b &&& s.d) ||| (s.c &&& s.d), 0x8F1BBCDC)
  else (s.b ^^^ s.c ^^^ s.d, 0xCA62C1D6)

/-- One round. -/
def round (s : State) (word : UInt32) (i : Nat) : State :=
  let (f, k) := roundTerm i s
  ⟨rotate 5 s.a + f + s.e + k + word, s.a, rotate 30 s.b, s.c, s.d⟩

/-- Mixes a block of sixteen words into a state. -/
def compress (s : State) (block : List UInt32) : State :=
  let t := (schedule block).toList.zipIdx.foldl (fun t (w, i) => round t w i) s
  ⟨s.a + t.a, s.b + t.b, s.c + t.c, s.d + t.d, s.e + t.e⟩

/-- Mixes a number of blocks into a state, one after the other. -/
def compressAll (s : State) (ws : List UInt32) : Nat → State
  | 0 => s
  | blocks + 1 => compressAll (compress s (ws.take 16)) (ws.drop 16) blocks

/-- The digest of a message. -/
def digest (message : List UInt8) : State :=
  let ws := words (pad message)
  compressAll .start ws (ws.length / 16)

/-- A word as eight hexadecimal digits. -/
def wordHex (w : UInt32) : List Char :=
  let digits := Nat.toDigits 16 w.toNat
  List.replicate (8 - digits.length) '0' ++ digits

/-- A digest as forty hexadecimal digits. -/
def State.hex (s : State) : String :=
  .ofList ([s.a, s.b, s.c, s.d, s.e].flatMap wordHex)

/-- The digest of a text's encoding, in hexadecimal. -/
def hexOfText (text : String) : String :=
  (digest text.toUTF8.toList).hex

end CodeClones.Sha1
