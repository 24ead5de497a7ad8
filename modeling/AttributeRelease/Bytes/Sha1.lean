/-!
# SHA-1

The digest of a message: the message is filled up to whole blocks of 64 bytes, a one bit and its
length in bits at the end, and each block is mixed into a state of five words in 80 rounds.
-/

namespace AttributeRelease.Bytes.Sha1

/-- The state between blocks. -/
structure State where
  a : UInt32
  b : UInt32
  c : UInt32
  d : UInt32
  e : UInt32
  deriving DecidableEq, Repr

/-- The state before the first block. -/
def initial : State := ⟨0x67452301, 0xEFCDAB89, 0x98BADCFE, 0x10325476, 0xC3D2E1F0⟩

/-- Rotates a word to the left. -/
def rotate (word : UInt32) (count : UInt32) : UInt32 :=
  (word <<< count) ||| (word >>> (32 - count))

/-- A number as bytes, the most significant first. -/
def bigEndian : (count : Nat) → Nat → List UInt8
  | 0, _ => []
  | count + 1, n => bigEndian count (n / 256) ++ [.ofNat (n % 256)]

/-- A message filled up to whole blocks. -/
def pad (message : List UInt8) : List UInt8 :=
  let zeros := (119 - message.length % 64) % 64
  message ++ 0x80 :: List.replicate zeros 0 ++ bigEndian 8 (8 * message.length)

/-- The words of bytes, four in each. -/
def words : List UInt8 → List UInt32
  | a :: b :: c :: d :: rest =>
    ((a.toUInt32 <<< 24) ||| (b.toUInt32 <<< 16) ||| (c.toUInt32 <<< 8) ||| d.toUInt32) ::
      words rest
  | _ => []

/-- The words of the rounds from the last 16 words on, given backwards: each further word is made of
four earlier ones. -/
def schedule : Nat → List UInt32 → List UInt32
  | 0, recent => recent
  | count + 1, recent =>
    let word (back : Nat) := recent.getD (back - 1) 0
    schedule count (rotate (word 3 ^^^ word 8 ^^^ word 14 ^^^ word 16) 1 :: recent)

/-- The function and the constant of a round. -/
def mix (round : Nat) (b c d : UInt32) : UInt32 × UInt32 :=
  if round < 20 then ((b &&& c) ||| (~~~b &&& d), 0x5A827999)
  else if round < 40 then (b ^^^ c ^^^ d, 0x6ED9EBA1)
  else if round < 60 then ((b &&& c) ||| (b &&& d) ||| (c &&& d), 0x8F1BBCDC)
  else (b ^^^ c ^^^ d, 0xCA62C1D6)

/-- One round with its word. -/
def round (state : State) (entry : Nat × UInt32) : State :=
  let (f, k) := mix entry.1 state.b state.c state.d
  ⟨rotate state.a 5 + f + state.e + k + entry.2, state.a, rotate state.b 30, state.c, state.d⟩

/-- Mixes a block of 16 words into the state. -/
def mixBlock (state : State) (block : List UInt32) : State :=
  let scheduled := (schedule 64 block.reverse).reverse
  let final := ((List.range 80).zip scheduled).foldl round state
  ⟨state.a + final.a, state.b + final.b, state.c + final.c, state.d + final.d, state.e + final.e⟩

/-- Mixes blocks into the state; the fuel is their number. -/
def mixBlocks : Nat → State → List UInt32 → State
  | 0, state, _ => state
  | count + 1, state, rest => mixBlocks count (mixBlock state (rest.take 16)) (rest.drop 16)

/-- The digest of a message, 20 bytes. -/
def digest (message : List UInt8) : List UInt8 :=
  let padded := pad message
  let final := mixBlocks (padded.length / 64) initial (words padded)
  [final.a, final.b, final.c, final.d, final.e].flatMap fun word => bigEndian 4 word.toNat

end AttributeRelease.Bytes.Sha1
