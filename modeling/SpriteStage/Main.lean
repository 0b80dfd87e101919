import SpriteStage.CommandLine

open SpriteStage

def readFile? (path : String) : IO (Option ByteArray) := do
  try
    return some (<- IO.FS.readBinFile path)
  catch _ =>
    return none

def filesOf (invocation : Invocation) : List String :=
  let scene := match invocation.command with
    | .run path _ _ => path
    | .step path _ => some path
    | .config => none
  invocation.settings.toList ++ scene.toList

def randomKey : IO Random.Key := do
  let bytes <- IO.getRandomBytes 32
  let byte (index : Nat) : Nat := (bytes.toList[index]?.getD 0).toNat
  return Vector.ofFn fun index =>
    let start := 4 * index.val
    UInt32.ofNat (((byte start * 256 + byte (start + 1)) * 256 + byte (start + 2)) * 256 +
      byte (start + 3))

def main (arguments : List String) : IO UInt32 := do
  let paths := match Invocation.ofArguments? arguments with
    | some invocation => filesOf invocation
    | none => []
  let contents <- paths.mapM fun path => do return (path, <- readFile? path)
  let file (path : String) : Option ByteArray := (contents.lookup path).join
  let supply := IdSupply.ofKeys (<- randomKey) (<- randomKey)
  let entropy := (Random.Draws.mk (<- randomKey) 0).doubleWord.1
  let response := Invocation.respond arguments file supply entropy fun _ => Instant.epoch
  IO.print response.output
  unless response.complaint.isEmpty do
    IO.eprintln response.complaint
  return response.exit
