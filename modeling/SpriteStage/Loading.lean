import SpriteStage.Codec.Scene
import SpriteStage.Codec.Stage

namespace SpriteStage

/-!
# Loading files

A file is read from its bytes, which must be UTF-8 text.  A missing file has
no bytes.
-/

def textOfFile : Option ByteArray -> Except Refusal String
  | none => .error .unreadable
  | some bytes =>
    match String.fromUTF8? bytes with
    | some text => .ok text
    | none => .error .unreadable

namespace Settings

def ofText (text : String) : Except Refusal Settings :=
  match (Json.ofText? text).bind ofJson? with
  | none => .error .undecodable
  | some settings =>
    match settings.check with
    | .ok () => .ok settings
    | .error refusal => .error (.settings refusal)

def load (file : Option ByteArray) : Except Refusal Settings := do
  ofText (<- textOfFile file)

end Settings

namespace Scene

def load (file : Option ByteArray) : Except Refusal Scene := do
  ofText (<- textOfFile file)

end Scene

end SpriteStage
