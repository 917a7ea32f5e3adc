/-
The program.  The files that a command line may look at are read into a tree,
the command line is run on it, and what the run has changed is written back.
No server is asked for an address.
-/
import RegionSnapshot.CommandLine.Run

namespace RegionSnapshot
namespace CommandLine

/-- The variables of the process, as the system shows them. -/
def readVariables : IO (List (String × String)) := do
  try
    let content ← IO.FS.readBinFile "/proc/self/environ"
    match Utf8.decode content.toList with
    | .error _ => return []
    | .ok text =>
        return (Text.fields (Char.ofNat 0) text).filterMap (Text.cut? '=')
  catch _ => return []

/-- The path of a place. -/
def placeText (place : Place) : String :=
  "/" ++ "/".intercalate place

/-- The place of an absolute path. -/
def placeOf (path : String) : Place :=
  (Text.fields '/' path).filter (· ≠ "")

/-- A file can be opened in a mode. -/
def opens (path : String) (mode : IO.FS.Mode) : IO Bool := do
  try
    let _ ← IO.FS.Handle.mk path mode
    return true
  catch _ => return false

/-- What stands at a place of the system; directories may be read and
written. -/
def readNode (place : Place) : IO (Option FileNode) := do
  try
    let path ← IO.FS.realPath (placeText place)
    if ← path.isDir then return some (.directory .full)
    let text := path.toString
    let access : Access := ⟨← opens text .read, ← opens text .append⟩
    if access.read then
      return some (.file (← IO.FS.readBinFile path).toList access)
    else return some (.file [] access)
  catch _ => return none

/-- Reads into the tree what stands at the places that a path passes. -/
def readPath (tree : FileTree) (text : String) : IO FileTree := do
  let path := Path.ofText text
  let places := Path.passed (tree.origin path.absolute) path.steps
  places.foldlM (fun tree place => do
    match ← readNode place with
    | some node => return tree.set place node
    | none => return tree) tree

/-- Writes what is new in a tree; directories were made before what is in
them. -/
def writeBack (before after : FileTree) : IO Unit :=
  after.nodes.reverse.forM (fun (place, node) => do
    if before.node? place ≠ some node then
      match node with
      | .directory _ => IO.FS.createDirAll (placeText place)
      | .file content _ =>
          IO.FS.writeBinFile (placeText place) (.mk content.toArray))

end CommandLine
end RegionSnapshot

open RegionSnapshot in
def main (arguments : List String) : IO UInt32 := do
  let directory := (← IO.currentDir).toString
  let processVariables ← CommandLine.readVariables
  let start := FileTree.bare (CommandLine.placeOf directory)
  let paths :=
    CommandLine.paths processVariables directory .offline arguments
  let tree ← paths.foldlM CommandLine.readPath start
  let outcome :=
    CommandLine.run processVariables directory .offline tree arguments
  CommandLine.writeBack tree outcome.tree
  IO.print outcome.stdout
  IO.eprint outcome.stderr
  return .ofNat outcome.exitCode
