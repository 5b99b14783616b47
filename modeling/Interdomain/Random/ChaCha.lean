import Interdomain.Random.WordSource

/-!
# A seeded key stream

The words of the ChaCha stream cipher with twelve rounds, under a key that is expanded from a seed
of 64 bits. The stream is the concatenation of its blocks, and a block is a function of the key and
of its number, so a word is found from its position alone.
-/

namespace Interdomain.ChaCha

/-! ## Blocks -/

/-- The words of a block. -/
abbrev Block := Vector UInt32 16

/-- Rotate a word to the left by less than its width. -/
def rotateLeft (x n : UInt32) : UInt32 := (x <<< n) ||| (x >>> (32 - n))

/-- Mix four words of a block. -/
def quarterRound (a b c d : Fin 16) (s : Block) : Block :=
  let s := s.set a (s[a] + s[b])
  let s := s.set d (rotateLeft (s[d] ^^^ s[a]) 16)
  let s := s.set c (s[c] + s[d])
  let s := s.set b (rotateLeft (s[b] ^^^ s[c]) 12)
  let s := s.set a (s[a] + s[b])
  let s := s.set d (rotateLeft (s[d] ^^^ s[a]) 8)
  let s := s.set c (s[c] + s[d])
  s.set b (rotateLeft (s[b] ^^^ s[c]) 7)

/-- Mix the columns and then the diagonals of a block. -/
def doubleRound (s : Block) : Block :=
  let s := quarterRound 3 7 11 15 <| quarterRound 2 6 10 14 <| quarterRound 1 5 9 13 <|
    quarterRound 0 4 8 12 s
  quarterRound 3 4 9 14 <| quarterRound 2 7 8 13 <| quarterRound 1 6 11 12 <|
    quarterRound 0 5 10 15 s

/-- The block that is mixed: four constants, the key, the number of the block, and no stream
number. -/
def initialBlock (key : Vector UInt32 8) (number : UInt64) : Block :=
  #v[0x61707865, 0x3320646e, 0x79622d32, 0x6b206574,
    key[0], key[1], key[2], key[3], key[4], key[5], key[6], key[7],
    number.toUInt32, (number >>> 32).toUInt32, 0, 0]

/-- A block of the stream: six double rounds, added to the block that was mixed. -/
def block (key : Vector UInt32 8) (number : UInt64) : Block :=
  let start := initialBlock key number
  let mixed := (List.range 6).foldl (fun s _ ↦ doubleRound s) start
  Vector.zipWith (· + ·) start mixed

/-! ## Seeds -/

/-- One step of the generator that expands a seed. -/
def expandStep (state : UInt64) : UInt64 := state * 6364136223846793005 + 11634580027462260723

/-- The word that the generator shows in a state. -/
def expandWord (state : UInt64) : UInt32 :=
  let x := (((state >>> 18) ^^^ state) >>> 27).toUInt32
  let n := (state >>> 59).toUInt32
  (x >>> n) ||| (x <<< ((32 - n) % 32))

def keyOfSeed (seed : UInt64) : Vector UInt32 8 :=
  Vector.ofFn fun i ↦ expandWord ((List.range (i.val + 1)).foldl (fun s _ ↦ expandStep s) seed)

/-! ## The stream -/

/-- A place in the stream of a key. -/
structure Stream where
  key : Vector UInt32 8
  /-- The number of words before this place. -/
  position : Nat

def Stream.ofSeed (seed : UInt64) : Stream := ⟨keyOfSeed seed, 0⟩

def wordAt (key : Vector UInt32 8) (position : Nat) : UInt32 :=
  (block key (UInt64.ofNat (position / 16))).get ⟨position % 16, Nat.mod_lt _ (by decide)⟩

instance : WordSource Stream where
  next s := (wordAt s.key s.position, { s with position := s.position + 1 })

end Interdomain.ChaCha
