/-
Resources: files, entries of a class path, bytes in memory, and addresses on
the network, of which an agent asks the servers.  Only files can be written.
-/
import RegionSnapshot.Files.Tree
import RegionSnapshot.Resource.Error
import RegionSnapshot.Stream.Sink
import RegionSnapshot.Stream.Source

namespace RegionSnapshot

/-- What the servers answer when they are asked for an address: the status of
their answer, if there is one, or the body of it, or else why there is none. -/
structure Agent where
  head : String → Option Nat
  get : String → Except String Source

/-- An agent that reaches no server. -/
def Agent.offline : Agent :=
  ⟨fun _ => none, fun address => .error (address ++ ": Connection Failed")⟩

/-- Something with a location that may be read or written.  The entry of a
class path keeps the file in which it was found. -/
inductive Resource
  | file (location path : String)
  | classpath (location entry : String) (path : Option String)
  | memory (location : String) (content : Bytes)
  | url (address : String) (agent : Agent)

/-- The paths of `entry` below the directories of a class path. -/
def classpathPaths (roots : List String) (entry : String) : List String :=
  roots.map (Path.join · (Text.dropLeading '/' entry))

/-- The first file called `entry` below the directories of a class path. -/
def findOnClasspath (tree : FileTree) (roots : List String) (entry : String) :
    Option String :=
  (classpathPaths roots entry).find? (fun path => tree.isFile (.ofText path))

namespace Resource

/-- The file of a path, at a location of its own. -/
def ofPath (path : String) : Resource :=
  .file ("file://" ++ path) path

/-- An entry of a class path, looked up now. -/
def ofEntry (tree : FileTree) (roots : List String)
    (location entry : String) : Resource :=
  .classpath location entry (findOnClasspath tree roots entry)

def location : Resource → String
  | .file location _ => location
  | .classpath location _ _ => location
  | .memory location _ => location
  | .url address _ => address

def description : Resource → String
  | .file _ path => s!"file [{path}]"
  | .classpath _ entry _ => s!"class path resource [{entry}]"
  | .memory location content =>
      s!"byte array resource [{location}] ({content.length} bytes)"
  | .url address _ => s!"URL [{address}]"

/-- The file behind a resource. -/
def path? : Resource → Option Path
  | .file _ path => some (.ofText path)
  | .classpath _ _ path => path.map .ofText
  | _ => none

/-- The resource is there. -/
def isThere (tree : FileTree) : Resource → Bool
  | .memory _ _ => true
  | .url address agent => (agent.head address).any (· < 300)
  | r => (r.path?.map tree.stands).getD false

/-- The resource can be read.  Of an address it is only asked whether it is
there. -/
def isReadable (tree : FileTree) : Resource → Bool
  | .memory _ _ => true
  | .url address agent => (agent.head address).any (· < 300)
  | r => (r.path?.map tree.isReadable).getD false

/-- The resource can be written. -/
def isWritable (tree : FileTree) : Resource → Bool
  | .file _ path => tree.isWritable (.ofText path)
  | _ => false

/-- Opens a resource for reading. -/
def openRead (tree : FileTree) : Resource → Except IoError Source
  | .memory _ content => .ok (.steady content)
  | .url address agent => (agent.get address).mapError .device
  | r =>
      match r.path? with
      | none => .error (.missing r.description)
      | some path =>
          match tree.content path with
          | .ok content => .ok (.steady content)
          | .error error => .error (.file error)

/-- Opens a resource for writing; a file is emptied. -/
def openWrite (tree : FileTree) : Resource →
    Except IoError Place × FileTree
  | .file _ path =>
      match tree.openForWriting (.ofText path) with
      | (.ok place, tree) => (.ok place, tree)
      | (.error error, tree) => (.error (.file error), tree)
  | r => (.error (.unsupported r.description), tree)

/-- The resource, if it can be read. -/
def readable (tree : FileTree) (r : Resource) :
    Except ResourceError Resource :=
  if r.isReadable tree then .ok r else .error (.notReadable r.location)

/-- The resource, if it can be written. -/
def writable (tree : FileTree) (r : Resource) :
    Except ResourceError Resource :=
  if r.isWritable tree then .ok r else .error (.notWritable r.location)

end Resource
end RegionSnapshot
