/-
Settings of the exchange of snapshots, read from properties: whether export
and import are enabled, the profiles that import, the names and locations of
resources, and the class path.
-/
import RegionSnapshot.Environment
import RegionSnapshot.Region.Path

namespace RegionSnapshot
namespace Settings

def exportEnabledProperty : String := "cache.data.export.enabled"

def importEnabledProperty : String := "cache.data.import.enabled"

def importProfilesProperty : String := "cache.data.import.active-profiles"

def exportLocationProperty : String := "cache.data.export.resource.location"

def importLocationProperty : String := "cache.data.import.resource.location"

def namePatternProperty : String := "cache.data.resource.name-pattern"

def classpathProperty : String := "cache.data.classpath"

/-- The hole in a name pattern, an empty pair of braces. -/
def hole : List Char := ['\x7b', '\x7d']

/-- A pattern with `filling` in every hole. -/
def fill (filling : List Char) : List Char → List Char
  | '\x7b' :: '\x7d' :: rest => filling ++ fill filling rest
  | c :: rest => c :: fill filling rest
  | [] => []

def defaultNamePattern : String :=
  .ofList (hole ++ ".json".toList)

/-- The name of the resource of a region: its lowered name in the holes of the
pattern, or before a pattern without hole. -/
def resourceName (env : Environment) (region : RegionId) : String :=
  let pattern :=
    ((env.nonBlank? namePatternProperty).getD defaultNamePattern).toList
  let name := (Text.toLower region.name).toList
  if Text.occursIn hole pattern then .ofList (fill name pattern)
  else .ofList (name ++ pattern)

/-- The directory that is searched where no class path is set. -/
def defaultClasspath : List String := ["resources"]

/-- The directories of a class path; empty ones do not count. -/
def parseClasspath (text : String) : List String :=
  (Text.fields ':' text).filter (· ≠ "")

/-- The directories that are searched for class path resources. -/
def classpath (env : Environment) : List String :=
  match env.nonBlank? classpathProperty with
  | some text => parseClasspath text
  | none => defaultClasspath

/-- The profiles that import; none means all of them. -/
def importProfiles (env : Environment) : List String :=
  env.list importProfilesProperty

/-- Export is enabled unless it is switched off. -/
def exportEnabled (env : Environment) : Bool :=
  env.boolOr exportEnabledProperty true

/-- Import is enabled only if it is switched on. -/
def importEnabled (env : Environment) : Bool :=
  env.boolOr importEnabledProperty false

/-- An effective profile may import. -/
def importProfileActive (env : Environment) : Bool :=
  let allowed := importProfiles env
  allowed.isEmpty || env.effectiveProfiles.any (allowed.contains ·)

end Settings

end RegionSnapshot
