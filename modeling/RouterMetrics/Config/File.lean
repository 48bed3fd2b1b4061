import RouterMetrics.Config.Basic
import RouterMetrics.Config.Environment
import RouterMetrics.Text.Channel

/-! Configurations in files. -/

namespace RouterMetrics.Config

/-- How many characters of a file are read at once. -/
def blockSize : Nat := 4096

/-- The source in the blocks of a file: the first two are looked at before the others are read, so
only what is wrong with a later one leaves something to read. -/
def sourceOf (blocks : List (List Char)) (invalid : Option Text.Utf8.Invalid) :
    Except Fault Yaml.Source := do
  if let (some invalid, true) := (invalid, decide (blocks.length < 2)) then
    throw (.undecodable invalid)
  let first := (blocks.take 2).flatten
  unless first.all Yaml.isAllowed do throw (.document .malformed)
  let later := blocks.drop 2
  let good := later.takeWhile fun block => block.all Yaml.isAllowed
  let ending :=
    if good.length < later.length then some .malformed else invalid.map fun _ => .cutOff
  return ⟨first ++ good.flatten, ending⟩

/-- The configuration in the file under a path, given the names of all collectors. -/
def loadFile (known : List String) (files : Reading) (path : String) : Except Fault Config := do
  if path.toList.contains '\x00' then throw .badPath
  let bytes ← (files path).mapError (Fault.unreadable path)
  let (blocks, invalid) := Text.blocksOf blockSize bytes
  let source ← sourceOf blocks invalid
  (loadSource known source).mapError fun fault =>
    match fault, invalid with
    | .document .cutOff, some invalid => .undecodable invalid
    | fault, _ => fault

/-- The entry about a file that is loaded. -/
def fileEntry (path : String) : Entry :=
  ⟨.info, journalSource, "Loading config file " ++ path, none⟩

end RouterMetrics.Config
