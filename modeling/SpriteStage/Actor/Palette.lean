namespace SpriteStage

/-!
# The palette

The ten colours that actors are given when nobody chose one.
-/

/-- The colours for new actors, in the order in which a scene deals them out. -/
def palette : List String :=
  ["#FF5722", "#2196F3", "#4CAF50", "#9C27B0", "#FFC107", "#E91E63", "#00BCD4", "#8BC34A",
    "#3F51B5", "#F44336"]

/-- The colour that a scene gives to the actor of an index. -/
def paletteColor (index : Nat) : String := palette[index % palette.length]?.getD ""

/-- The palette colours that are not in use; when all are, all are free again. -/
def freeColors (used : List String) : List String :=
  let unused := palette.filter fun color => !used.contains color
  if unused.isEmpty then palette else unused

end SpriteStage
