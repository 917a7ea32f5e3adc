/-
Trees of files.  A tree says what stands at each place, a place being the names
on the way down from the root; the root and the working directory always
stand.  A path is followed step by step, and each directory on the way must be
there: so a path can fail although a shorter spelling of it does not.  What
stands may be read and written by its own permissions; every directory may be
passed.
-/
import RegionSnapshot.Entries
import RegionSnapshot.Files.Path
import RegionSnapshot.Stream.IoError
import RegionSnapshot.Text.Utf8

namespace RegionSnapshot

/-- The permissions of a node. -/
structure Access where
  read : Bool
  write : Bool
  deriving DecidableEq, Repr

/-- The permissions of what is newly made. -/
def Access.full : Access := ⟨true, true⟩

/-- What stands at a place. -/
inductive FileNode
  | file (content : Bytes) (access : Access)
  | directory (access : Access)
  deriving DecidableEq, Repr

namespace FileNode

def isDirectory : FileNode → Bool
  | .directory _ => true
  | .file _ _ => false

def isFile : FileNode → Bool
  | .directory _ => false
  | .file _ _ => true

def access : FileNode → Access
  | .directory access => access
  | .file _ access => access

end FileNode

/-- The names on the way down from the root. -/
abbrev Place := List String

/-- A tree of files and the place of the working directory. -/
structure FileTree where
  nodes : List (Place × FileNode)
  workingDirectory : Place
  deriving Repr

namespace FileTree

/-- The node at a place; the root is a directory. -/
def node? (tree : FileTree) (place : Place) : Option FileNode :=
  match place with
  | [] => some (.directory .full)
  | place => tree.nodes.lookup place

/-- Puts a node at a place. -/
def set (tree : FileTree) (place : Place) (node : FileNode) : FileTree :=
  { tree with
    nodes := (place, node) :: tree.nodes.filter (fun entry => entry.1 ≠ place) }

/-- A directory stands at the place. -/
def isDirectoryAt (tree : FileTree) (place : Place) : Bool :=
  ((tree.node? place).map FileNode.isDirectory).getD false

/-- Where a path starts. -/
def origin (tree : FileTree) (absolute : Bool) : Place :=
  if absolute then [] else tree.workingDirectory

/-- Follows steps from a place. -/
def follow (tree : FileTree) (place : Place) :
    List PathStep → Except FileError Place
  | [] => .ok place
  | step :: rest =>
      if !tree.isDirectoryAt place then .error .notADirectory
      else
        match step with
        | .here => follow tree place rest
        | .up => follow tree place.dropLast rest
        | .name name =>
            let next := place ++ [name]
            if (tree.node? next).isNone then .error .notFound
            else follow tree next rest

/-- The place and the node that a path leads to. -/
def locate (tree : FileTree) (path : Path) :
    Except FileError (Place × FileNode) := do
  if path.isEmpty then throw .notFound
  let place ← tree.follow (tree.origin path.absolute) path.steps
  match tree.node? place with
  | none => throw .notFound
  | some node =>
      if path.asDirectory && !node.isDirectory then throw .notADirectory
      else return (place, node)

/-- The node that a path leads to. -/
def find? (tree : FileTree) (path : Path) : Option FileNode :=
  match tree.locate path with
  | .ok (_, node) => some node
  | .error _ => none

def stands (tree : FileTree) (path : Path) : Bool :=
  (tree.find? path).isSome

def isFile (tree : FileTree) (path : Path) : Bool :=
  ((tree.find? path).map FileNode.isFile).getD false

def isDirectory (tree : FileTree) (path : Path) : Bool :=
  ((tree.find? path).map FileNode.isDirectory).getD false

/-- Where the last step of a path would make something new: the directory and
the name in it.  `taken` is the refusal where that step is no name. -/
def target (tree : FileTree) (taken : FileError) (path : Path) :
    Except FileError (Place × String) := do
  if path.isEmpty then throw .notFound
  let parent ←
    tree.follow (tree.origin path.absolute) path.steps.dropLast
  if !tree.isDirectoryAt parent then throw .notADirectory
  match path.steps.getLast? with
  | some (.name name) => return (parent, name)
  | _ => throw taken

/-- Nothing may be made in a directory without permission to write. -/
def permits (tree : FileTree) (directory : Place) : Bool :=
  match tree.node? directory with
  | some node => node.access.write
  | none => false

/-- Makes one directory. -/
def makeDirectory (tree : FileTree) (path : Path) :
    Except FileError FileTree := do
  let (parent, name) ← tree.target .alreadyExists path
  let place := parent ++ [name]
  if (tree.node? place).isSome then throw .alreadyExists
  if !tree.permits parent then throw .permissionDenied
  return tree.set place (.directory .full)

/-- Makes one directory, unless it stands already. -/
def ensureDirectory (tree : FileTree) (path : Path) :
    Except FileError Unit × FileTree :=
  match tree.makeDirectory path with
  | .ok tree => (.ok (), tree)
  | .error error =>
      (if tree.isDirectory path then .ok () else .error error, tree)

/-- Makes a directory and those around it; the steps stand last one first. -/
def makeDirectories (tree : FileTree) (absolute : Bool) :
    List PathStep → Except FileError Unit × FileTree
  | [] => (.ok (), tree)
  | step :: rest =>
      let path : Path := ⟨absolute, (step :: rest).reverse, false⟩
      match tree.ensureDirectory path with
      | (.error .notFound, tree) =>
          match makeDirectories tree absolute rest with
          | (.ok (), tree) => tree.ensureDirectory path
          | failed => failed
      | done => done

/-- Makes the directories around a path. -/
def makeParents (tree : FileTree) (path : Path) :
    Except FileError Unit × FileTree :=
  match path.parent? with
  | some parent => makeDirectories tree parent.absolute parent.steps.reverse
  | none => (.ok (), tree)

/-- Makes an empty file at a path, or empties the file that stands there. -/
def truncate (tree : FileTree) (path : Path) :
    Except FileError (Place × FileTree) := do
  let (parent, name) ← tree.target .isADirectory path
  if path.asDirectory then throw .isADirectory
  let place := parent ++ [name]
  match tree.node? place with
  | some (.directory _) => throw .isADirectory
  | some (.file _ access) =>
      if !access.write then throw .permissionDenied
      else return (place, tree.set place (.file [] access))
  | none =>
      if !tree.permits parent then throw .permissionDenied
      else return (place, tree.set place (.file [] .full))

/-- Opens a file for writing: the directories around it are made and it is
emptied.  Directories that were made stay, even if the file is refused. -/
def openForWriting (tree : FileTree) (path : Path) :
    Except FileError Place × FileTree :=
  match tree.makeParents path with
  | (.error error, tree) => (.error error, tree)
  | (.ok (), tree) =>
      match tree.truncate path with
      | .ok (place, tree) => (.ok place, tree)
      | .error error => (.error error, tree)

/-- Writes bytes over the content of a file, from its start on; what was behind
them stays. -/
def overwrite (tree : FileTree) (place : Place) (bytes : Bytes) : FileTree :=
  match tree.node? place with
  | some (.file content access) =>
      tree.set place (.file (bytes ++ content.drop bytes.length) access)
  | _ => tree

/-- Opens a file for reading; a directory opens too. -/
def openForReading (tree : FileTree) (path : Path) :
    Except FileError FileNode := do
  let (_, node) ← tree.locate path
  if !node.access.read then throw .permissionDenied
  return node

/-- Reads what a path leads to; a directory has nothing to read. -/
def content (tree : FileTree) (path : Path) : Except FileError Bytes := do
  match ← tree.openForReading path with
  | .file bytes _ => return bytes
  | .directory _ => throw .isADirectory

/-- A path leads to a file that can be opened for reading. -/
def isReadable (tree : FileTree) (path : Path) : Bool :=
  tree.isFile path && (tree.openForReading path).toOption.isSome

/-- The first of the paths around a path at which something stands; the empty
one is the working directory. -/
def nearestAncestor? (tree : FileTree) (path : Path) : Option FileNode :=
  path.ancestors.findSome? (fun around =>
    tree.find? (if around.isEmpty then ⟨false, [.here], false⟩ else around))

/-- A file that stands is writable by its own permission, and one that does
not by that of the nearest directory around it. -/
def isWritable (tree : FileTree) (path : Path) : Bool :=
  match tree.find? path with
  | some node => node.isFile && node.access.write
  | none =>
      match tree.nearestAncestor? path with
      | some node => node.isDirectory && node.access.write
      | none => false

/-- Everything at and below a place is gone. -/
def remove (tree : FileTree) (place : Place) : FileTree :=
  { tree with
    nodes := tree.nodes.filter (fun entry => !place.isPrefixOf entry.1) }

/-- A node at a place, and directories at the places around it where nothing
stands. -/
def plant (tree : FileTree) (place : Place) (node : FileNode) : FileTree :=
  let around := (Path.properPrefixes place).filter (fun p =>
    !p.isEmpty && (tree.node? p).isNone)
  (around.foldl (fun tree p => tree.set p (.directory .full)) tree).set
    place node

/-- A tree with nothing but the directories down to the working directory. -/
def bare (workingDirectory : Place) : FileTree :=
  plant ⟨[], workingDirectory⟩ workingDirectory (.directory .full)

theorem node?_set (tree : FileTree) (place other : Place) (node : FileNode)
    (h : place ≠ []) :
    (tree.set place node).node? other =
      if other = place then some node else tree.node? other := by
  have hlookup : ∀ entries : List (Place × FileNode), other ≠ place →
      (entries.filter (fun entry => entry.1 ≠ place)).lookup other =
        entries.lookup other := by
    intro entries hne
    induction entries with
    | nil => rfl
    | cons entry rest ih =>
        obtain ⟨p, n⟩ := entry
        by_cases hp : p = place
        · subst hp
          simpa [List.lookup_cons, beq_eq_false_iff_ne.2 hne] using ih
        · by_cases hother : other = p
          · subst hother
            simp [hp]
          · simpa [List.lookup_cons, hp, beq_eq_false_iff_ne.2 hother]
              using ih
  cases other with
  | nil => simp [node?, h.symm]
  | cons name rest =>
      by_cases hplace : name :: rest = place
      · subst hplace
        simp [node?, set]
      · simp only [node?, set, List.lookup_cons,
          beq_eq_false_iff_ne.2 hplace, hplace, ↓reduceIte]
        exact hlookup tree.nodes hplace

end FileTree
end RegionSnapshot
