namespace SpriteStage.Random

/-!
# The ChaCha word stream

The words of the stream come in blocks of sixteen.  A block is a function of
the key and of its number alone: a starting state that holds both is mixed by
six double rounds and added to itself.
-/

abbrev Chunk := Vector UInt32 16

abbrev Key := Vector UInt32 8

def rotateLeft (word amount : UInt32) : UInt32 := (word <<< amount) ||| (word >>> (32 - amount))

/-- Mix four words of a block. -/
def quarterRound (block : Chunk) (a b c d : Fin 16) : Chunk :=
  let a1 := block[a] + block[b]
  let d1 := rotateLeft (block[d] ^^^ a1) 16
  let c1 := block[c] + d1
  let b1 := rotateLeft (block[b] ^^^ c1) 12
  let a2 := a1 + b1
  let d2 := rotateLeft (d1 ^^^ a2) 8
  let c2 := c1 + d2
  let b2 := rotateLeft (b1 ^^^ c2) 7
  (((block.set a a2).set b b2).set c c2).set d d2

/-- Mix the columns of a block, then its diagonals. -/
def doubleRound (block : Chunk) : Chunk :=
  let block := quarterRound block 0 4 8 12
  let block := quarterRound block 1 5 9 13
  let block := quarterRound block 2 6 10 14
  let block := quarterRound block 3 7 11 15
  let block := quarterRound block 0 5 10 15
  let block := quarterRound block 1 6 11 12
  let block := quarterRound block 2 7 8 13
  quarterRound block 3 4 9 14

/-- The number of double rounds, half that of single ones. -/
def doubleRounds : Nat := 6

/-- The state that a block starts from: four constants, the key, the number of
the block in two words, and a nonce of zero. -/
def startOf (key : Key) (number : Nat) : Chunk :=
  #v[0x61707865, 0x3320646e, 0x79622d32, 0x6b206574,
    key[0], key[1], key[2], key[3], key[4], key[5], key[6], key[7],
    UInt32.ofNat number, UInt32.ofNat (number / UInt32.size), 0, 0]

def streamBlock (key : Key) (number : Nat) : Chunk :=
  let start := startOf key number
  let mixed := Nat.repeat doubleRound doubleRounds start
  Vector.zipWith (· + ·) mixed start

def streamWord (key : Key) (position : Nat) : UInt32 :=
  (streamBlock key (position / 16)).get ⟨position % 16, Nat.mod_lt _ (by decide)⟩

end SpriteStage.Random
