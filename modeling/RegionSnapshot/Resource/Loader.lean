/-
Locations of resources.  The start of a location says what it names: an entry
of the class path, a file, or an address on the network; a location without
such a start is an entry of the class path or a file below some directory.
-/
import RegionSnapshot.Resource.Basic
import RegionSnapshot.Text.Blank

namespace RegionSnapshot

def classpathScheme : String := "classpath:"

def fileScheme : String := "file:"

/-- What a location without scheme names. -/
inductive BareLocation
  | classpath
  | fileSystem (root : String)
  deriving DecidableEq, Repr

/-- Finds the resource that a location names. -/
structure Loader where
  classpath : List String
  bare : BareLocation
  agent : Agent

namespace Loader

/-- A loader that takes bare locations for entries of the class path. -/
def ofClasspath (roots : List String) (agent : Agent) : Loader :=
  ⟨roots, .classpath, agent⟩

/-- The resource of a location without scheme. -/
def loadBare (loader : Loader) (tree : FileTree) (location : String) :
    Resource :=
  match loader.bare with
  | .classpath => .ofEntry tree loader.classpath location location
  | .fileSystem root => .file location (Path.join root location)

/-- The resource that a location names; none where the location is blank, is
a file without path, or has an unknown scheme. -/
def load? (loader : Loader) (tree : FileTree) (text : String) :
    Option Resource :=
  let location := Text.trim text
  if location.isEmpty then none
  else
    match Text.after? classpathScheme location with
    | some entry =>
        some (.ofEntry tree loader.classpath location entry)
    | none =>
        match Text.after? fileScheme location with
        | some rest =>
            let path := (Text.after? "//" rest).getD rest
            if path.isEmpty then none else some (.file location path)
        | none =>
            if Text.startsWith "http://" location ||
                Text.startsWith "https://" location then
              some (.url location loader.agent)
            else if Text.contains "://" location then none
            else some (loader.loadBare tree location)

/-- The paths of the files that a location may lead to. -/
def paths (loader : Loader) (location : String) : List String :=
  match loader.load? (.bare []) location with
  | some (.file _ path) => [path]
  | some (.classpath _ entry _) => classpathPaths loader.classpath entry
  | _ => []

end Loader

/-- Chooses a resource for a location. -/
inductive Resolver
  | loading (loader : Loader) (mustExist : Bool) (fallback : Option Resource)
  | single (resource : Resource)

namespace Resolver

/-- A resolver that takes every resource that its loader finds. -/
def ofClasspath (roots : List String) (agent : Agent) : Resolver :=
  .loading (.ofClasspath roots agent) false none

/-- The resource for a location: the one that the loader finds, unless it must
exist and does not, else the fallback. -/
def resolve (tree : FileTree) (location : String) : Resolver →
    Except ResourceError Resource
  | .single resource => .ok resource
  | .loading loader mustExist fallback =>
      if Text.isBlank location then .error (.invalidLocation location)
      else
        let found := (loader.load? tree location).filter
          (fun r => !mustExist || r.isThere tree)
        match found.or fallback with
        | some resource => .ok resource
        | none => .error (.notFound location)

end Resolver
end RegionSnapshot
