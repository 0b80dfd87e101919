import SpriteStage.Random.ChaCha

namespace SpriteStage.Random

/-!
# Random draws

A source of draws is a place in a word stream.  A draw takes words off the
stream and gives back the source behind them, so equal sources give equal
draws.  A draw that must be repeated until it fits is tried a bounded number
of times; each try fits with an even chance at least.
-/

/-- A place in a word stream. -/
structure Draws where
  key : Key
  position : Nat

/-- The next state of the generator that spreads a seed over a key. -/
def spreadStep (state : UInt64) : UInt64 := state * 6364136223846793005 + 11634580027462260723

/-- The word that a state of that generator puts out. -/
def spreadWord (state : UInt64) : UInt32 :=
  let mixed := (((state >>> 18) ^^^ state) >>> 27).toUInt32
  let amount := (state >>> 59).toUInt32
  (mixed >>> amount) ||| (mixed <<< (32 - amount))

def spreadState (seed : UInt64) (steps : Nat) : UInt64 := Nat.repeat spreadStep steps seed

def maxTries : Nat := 256

namespace Draws

def ofSeed (seed : UInt64) : Draws :=
  ⟨Vector.ofFn fun index => spreadWord (spreadState seed (index.val + 1)), 0⟩

def word (draws : Draws) : UInt32 × Draws :=
  (streamWord draws.key draws.position, { draws with position := draws.position + 1 })

/-- Draw two words, the lower one first. -/
def doubleWord (draws : Draws) : UInt64 × Draws :=
  let (low, afterLow) := draws.word
  let (high, afterHigh) := afterLow.word
  (high.toUInt64 <<< 32 ||| low.toUInt64, afterHigh)

/-- Draw a double from 0 up to 1, of 52 random bits. -/
def fraction (draws : Draws) : Float × Draws :=
  let (bits, rest) := draws.doubleWord
  (Float.ofBits ((0x3ff0000000000000 : UInt64) ||| (bits >>> 12)) - 1.0, rest)

/-- Draw a double from `-half` up to, but not including, `half`. -/
def offsetWithin (half : Float) : (tries : Nat) -> Draws -> Float × Draws
  | 0, draws => (-half, draws)
  | tries + 1, draws =>
    let (part, rest) := draws.fraction
    let value := part * (half - -half) + -half
    if value < half then (value, rest) else offsetWithin half tries rest

def offset (half : Float) (draws : Draws) : Float × Draws := offsetWithin half maxTries draws

/-- The largest lower half of a product that keeps all indices equally likely. -/
def acceptedZone (count : Nat) : Nat := count * Nat.pow 2 (31 - count.log2) - 1

/-- Draw an index below a positive `count`. -/
def indexWithin (count : Nat) : (tries : Nat) -> Draws -> Nat × Draws
  | 0, draws => (0, draws)
  | tries + 1, draws =>
    let (word, rest) := draws.word
    let product := word.toNat * count
    if product % UInt32.size ≤ acceptedZone count then (product / UInt32.size, rest)
    else indexWithin count tries rest

def index (count : Nat) (draws : Draws) : Nat × Draws := indexWithin count maxTries draws

/-- Draw an item of a list; an empty list has none and costs no draw. -/
def choose {Item : Type} (items : List Item) (draws : Draws) : Option Item × Draws :=
  if items.isEmpty then (none, draws)
  else
    let (place, rest) := draws.index items.length
    (items[place]?, rest)

theorem indexWithin_lt (count : Nat) (positive : 0 < count) (tries : Nat) (draws : Draws) :
    (indexWithin count tries draws).1 < count := by
  induction tries generalizing draws with
  | zero => exact positive
  | succ tries step =>
    unfold indexWithin
    dsimp only
    split
    · have bound := (draws.word).1.toNat_lt
      exact Nat.div_lt_of_lt_mul (Nat.mul_lt_mul_of_pos_right bound positive)
    · exact step _

end Draws

end SpriteStage.Random
