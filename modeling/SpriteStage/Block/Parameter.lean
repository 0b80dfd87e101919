import SpriteStage.Number.Layout
import SpriteStage.Number.Numeral
import SpriteStage.Text.Blank

namespace SpriteStage

/-!
# Parameter values

The authoring side hands a parameter over as a number or as text.  Either can
be asked for as a number, and then only a finite one counts, or as text.
-/

inductive Parameter where
  | number (value : Float)
  | text (value : String)
  deriving DecidableEq

namespace Parameter

def finite? (value : Float) : Option Float := if value.isFinite then some value else none

/-- The value as a finite number.  Blanks around a typed numeral are ignored;
the words for infinity and for no number are no numerals. -/
def number? : Parameter -> Option Float
  | .number value => finite? value
  | .text value =>
    (Number.typedNumeral? (Text.trim value.toList)).bind fun numeral => finite? numeral.exact

def wording : Parameter -> String
  | .number value => Number.messageText value
  | .text value => value

end Parameter

end SpriteStage
