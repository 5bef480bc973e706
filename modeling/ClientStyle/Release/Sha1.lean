/-
The SHA-1 digest of a message of bytes.

The message is padded to whole blocks of sixteen words. Each block is extended to eighty words, which
are mixed into a state of five words one after the other; the digest is the last state.
-/
set_option autoImplicit false

namespace ClientStyle.Sha1

/-! ## Words -/

/-- Rotates a word to the left. -/
def rotate (x n : UInt32) : UInt32 := (x <<< n) ||| (x >>> (32 - n))

/-- The word with these bytes, the highest one first. -/
def word (a b c d : UInt8) : UInt32 :=
  (a.toUInt32 <<< 24) ||| (b.toUInt32 <<< 16) ||| (c.toUInt32 <<< 8) ||| d.toUInt32

/-- The words of a list of bytes, of which there are four for each. -/
def words : List UInt8 → List UInt32
  | a :: b :: c :: d :: rest => word a b c d :: words rest
  | _ => []

/-- The bytes of a natural number, the highest one first. -/
def bytesOf (count n : Nat) : List UInt8 :=
  (List.range count).map fun i => (n / Nat.pow 256 (count - 1 - i)).toUInt8

/-! ## Blocks -/

/-- The size of a block in bytes. -/
def blockSize : Nat := 64

/-- The message with a mark, zeros and its length in bits behind it, which fills whole blocks. -/
def pad (message : List UInt8) : List UInt8 :=
  -- The mark takes one byte and the length eight.
  let zeros := (2 * blockSize - 9 - message.length % blockSize) % blockSize
  message ++ (0x80 :: List.replicate zeros 0) ++ bytesOf 8 (8 * message.length)

/-- A number of blocks of sixteen words. -/
def blocks : Nat → List UInt32 → List (List UInt32)
  | 0, _ => []
  | n + 1, ws => ws.take 16 :: blocks n (ws.drop 16)

/-- Adds a number of words to a block, whose words are listed from the last to the first. -/
def extend : Nat → List UInt32 → List UInt32
  | 0, ws => ws
  | n + 1, ws =>
    -- Counted from the word that is added, these are the words three, eight, fourteen and sixteen
    -- places before.
    let next := ws.getD 2 0 ^^^ ws.getD 7 0 ^^^ ws.getD 13 0 ^^^ ws.getD 15 0
    extend n (rotate next 1 :: ws)

/-- The eighty words of a block. -/
def schedule (block : List UInt32) : List UInt32 := (extend 64 block.reverse).reverse

/-! ## States -/

/-- The words that a message is mixed into. -/
structure State where
  a : UInt32
  b : UInt32
  c : UInt32
  d : UInt32
  e : UInt32
  deriving DecidableEq, Repr

namespace State

/-- The state before the first block. -/
def initial : State := ⟨0x67452301, 0xEFCDAB89, 0x98BADCFE, 0x10325476, 0xC3D2E1F0⟩

/-- How three words of a state are combined in a round, and the constant that is added then. -/
def combination (round : Nat) (s : State) : UInt32 × UInt32 :=
  if round < 20 then ((s.b &&& s.c) ||| (~~~s.b &&& s.d), 0x5A827999)
  else if round < 40 then (s.b ^^^ s.c ^^^ s.d, 0x6ED9EBA1)
  else if round < 60 then ((s.b &&& s.c) ||| (s.b &&& s.d) ||| (s.c &&& s.d), 0x8F1BBCDC)
  else (s.b ^^^ s.c ^^^ s.d, 0xCA62C1D6)

/-- Mixes a word into a state, in a certain round. -/
def mix (s : State) (round : Nat) (w : UInt32) : State :=
  let (combined, constant) := s.combination round
  ⟨rotate s.a 5 + combined + s.e + constant + w, s.a, rotate s.b 30, s.c, s.d⟩

/-- Adds two states word by word. -/
def add (s t : State) : State := ⟨s.a + t.a, s.b + t.b, s.c + t.c, s.d + t.d, s.e + t.e⟩

/-- Mixes a block into a state. -/
def mixBlock (s : State) (block : List UInt32) : State :=
  s.add ((schedule block).zipIdx.foldl (fun t w => t.mix w.2 w.1) s)

/-- The bytes of a state. -/
def bytes (s : State) : List UInt8 :=
  [s.a, s.b, s.c, s.d, s.e].flatMap fun w => bytesOf 4 w.toNat

end State

/-- The digest of a message, which has twenty bytes. -/
def digest (message : List UInt8) : List UInt8 :=
  let padded := pad message
  ((blocks (padded.length / blockSize) (words padded)).foldl State.mixBlock .initial).bytes

end ClientStyle.Sha1
