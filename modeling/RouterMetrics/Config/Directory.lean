import RouterMetrics.OrderedMap
import RouterMetrics.Text.Quoted
import RouterMetrics.Text.Split

/-! Directories: files by their paths, and what can be wrong with a path. -/

namespace RouterMetrics.Config

/-- Why there is no file under a path. -/
inductive PathFault where
  | missing
  | directory
  /-- The path goes on behind a file. -/
  | notDirectory
  | denied
  | tooLong
deriving Repr, DecidableEq

/-- The wording of a fault, without the path. -/
def PathFault.message : PathFault → String
  | missing => "[Errno 2] No such file or directory"
  | directory => "[Errno 21] Is a directory"
  | notDirectory => "[Errno 20] Not a directory"
  | denied => "[Errno 13] Permission denied"
  | tooLong => "[Errno 36] File name too long"

/-- The bytes of the file under a path. -/
abbrev Reading := String → Except PathFault (List UInt8)

/-- The bytes of files by their paths from a directory. -/
abbrev Directory := OrderedMap String (List UInt8)

/-- What is found on the way along a path. -/
inductive Place where
  /-- The directory under these names, the last one first. -/
  | inside (names : List String)
  /-- A directory that many steps above. -/
  | above (steps : Nat)
  | file (bytes : List UInt8)
deriving Repr, DecidableEq

/-- The most bytes in a name, and in a path. -/
def nameLimit : Nat := 255
def pathLimit : Nat := 4095

namespace Directory

/-- What is found under a name in a directory that has these names, the last one first. -/
def enter (directory : Directory) (names : List String) (name : String) :
    Except PathFault Place :=
  let path := "/".intercalate (name :: names).reverse
  match directory.get? path with
  | some bytes => .ok (.file bytes)
  | none =>
      if directory.keys.any fun key => (path ++ "/").toList.isPrefixOf key.toList then
        .ok (.inside (name :: names))
      else .error .missing

/-- One step along a path. -/
def step (directory : Directory) (place : Place) (name : String) : Except PathFault Place :=
  match place, name with
  | .file _, _ => .error .notDirectory
  | place, "" | place, "." => .ok place
  | .inside [], ".." => .ok (.above 1)
  | .inside (_ :: names), ".." => .ok (.inside names)
  | .above steps, ".." => .ok (.above (steps + 1))
  | place, name =>
      if nameLimit < name.utf8ByteSize then .error .tooLong
      else
        match place with
        | .inside names => directory.enter names name
        | _ => .error .missing

/-- The bytes of the file under a path. -/
def read (directory : Directory) : Reading := fun path => do
  if pathLimit < path.utf8ByteSize then throw .tooLong
  let names := (Text.partsAt '/' path.toList).map String.ofList
  let start : Place := if path.toList.head? == some '/' then .above 0 else .inside []
  match ← names.foldlM directory.step start with
  | .file bytes => return bytes
  | .inside _ | .above _ => throw .directory

end Directory

end RouterMetrics.Config
