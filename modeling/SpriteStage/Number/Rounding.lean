namespace SpriteStage.Number

/-!
# Rounding a quotient

One rule rounds every quotient of this library to a whole number: the nearer
neighbour, and for a quotient halfway between two of them the neighbour that
the tie rule names.
-/

/-- Which neighbour a quotient halfway between two whole numbers goes to. -/
inductive Tie where
  | toEven
  | up
  deriving DecidableEq

/-- Whether a tie whose lower neighbour is `below` goes to the upper one. -/
def Tie.goesUp (tie : Tie) (below : Nat) : Bool :=
  match tie with
  | .toEven => below % 2 == 1
  | .up => true

/-- The quotient of two numbers, rounded to a nearest whole number. -/
def roundDiv (numerator denominator : Nat) (tie : Tie) : Nat :=
  let below := numerator / denominator
  let twice := 2 * (numerator % denominator)
  if twice < denominator then below
  else if denominator < twice then below + 1
  else if tie.goesUp below then below + 1 else below

theorem le_roundDiv (numerator denominator : Nat) (tie : Tie) :
    numerator / denominator ≤ roundDiv numerator denominator tie := by
  unfold roundDiv
  dsimp only
  split
  · omega
  · split
    · omega
    · split <;> omega

end SpriteStage.Number
