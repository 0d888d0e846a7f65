/-!
A reproducible stream of random words.

The stream is the keystream of the ChaCha cipher with twelve rounds, under a key that a linear
congruential generator makes from a seed. Every word is a function of the key and its position.
-/

namespace Complementarity.Keystream

/-- The key of a stream. -/
abbrev Key := Vector UInt32 8

/-- The sixteen words of a block. -/
abbrev Block := Vector UInt32 16

/-- A word with its bits moved to higher places, the topmost ones to the bottom. -/
def rotateLeft (x k : UInt32) : UInt32 :=
  (x <<< k) ||| (x >>> (32 - k))

/-- Adds one word to another, and mixes the sum into a third one. -/
def mix (a b d : Fin 16) (k : UInt32) (x : Block) : Block :=
  let x := x.set a (x[a] + x[b])
  x.set d (rotateLeft (x[d] ^^^ x[a]) k)

/-- Mixes four words. -/
def quarterRound (a b c d : Fin 16) (x : Block) : Block :=
  mix c d b 7 (mix a b d 8 (mix c d b 12 (mix a b d 16 x)))

/-- Mixes the columns of a block. -/
def columnRound (x : Block) : Block :=
  quarterRound 3 7 11 15 (quarterRound 2 6 10 14 (quarterRound 1 5 9 13 (quarterRound 0 4 8 12 x)))

/-- Mixes the diagonals of a block. -/
def diagonalRound (x : Block) : Block :=
  quarterRound 3 4 9 14 (quarterRound 2 7 8 13 (quarterRound 1 6 11 12 (quarterRound 0 5 10 15 x)))

/-- Mixes columns and diagonals so many times. -/
def rounds : Nat → Block → Block
  | 0, x => x
  | k + 1, x => rounds k (diagonalRound (columnRound x))

/-- The words in front of the key. -/
def constants : Vector UInt32 4 :=
  #v[0x61707865, 0x3320646e, 0x79622d32, 0x6b206574]

/-- The block with a number before it is mixed. -/
def start (key : Key) (number : Nat) : Block :=
  constants ++ key ++ #v[UInt32.ofNat number, UInt32.ofNat (number / Nat.pow 2 32), 0, 0]

/-- The block with a number. -/
def block (key : Key) (number : Nat) : Block :=
  let x := start key number
  Vector.zipWith (fun a b => a + b) (rounds 6 x) x

/-- The word at a position. -/
def word (key : Key) (position : Nat) : UInt32 :=
  (block key (position / 16))[position % 16]

/-- Two words of the stream as one, the earlier one as its lower half. -/
def doubleWord (key : Key) (position : Nat) : UInt64 :=
  (word key (2 * position)).toUInt64 ||| ((word key (2 * position + 1)).toUInt64 <<< 32)

/-- The next state of the generator that expands a seed. -/
def advance (s : UInt64) : UInt64 :=
  s * 6364136223846793005 + 11634580027462260723

/-- The word that a state of the generator stands for. -/
def scramble (s : UInt64) : UInt32 :=
  let x := (((s >>> 18) ^^^ s) >>> 27).toUInt32
  let k := (s >>> 59).toUInt32
  (x >>> k) ||| (x <<< ((32 - k) % 32))

/-- The state of the generator after so many steps. -/
def state (seed : UInt64) : Nat → UInt64
  | 0 => seed
  | k + 1 => advance (state seed k)

/-- The key that a seed expands to. -/
def keyOf (seed : UInt64) : Key :=
  Vector.ofFn fun i => scramble (state seed (i.val + 1))

end Complementarity.Keystream
