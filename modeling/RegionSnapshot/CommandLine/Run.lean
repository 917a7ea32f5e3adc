/-
The commands.  `resolve` shows the resource of a region, `inspect` lists the
entries of a snapshot, and `normalize` writes a snapshot in its standard form,
to the standard output or to another resource.
-/
import RegionSnapshot.CommandLine.Arguments
import RegionSnapshot.CommandLine.Failure
import RegionSnapshot.Exchange.Location
import RegionSnapshot.Resource.Transfer
import RegionSnapshot.Snapshot.Document
import RegionSnapshot.Typed.Schema

namespace RegionSnapshot
namespace CommandLine

/-- What a command sees besides its arguments. -/
structure Setting where
  environment : Environment
  json : Bool
  workingDirectory : String
  agent : Agent

/-- The environment of a command: the properties and profiles of the command
line over the variables of the process. -/
def environmentOf (processVariables : List (String × String))
    (invocation : Invocation) : Environment :=
  ⟨Entries.insertAll (Entries.ofList processVariables) invocation.properties,
    invocation.profiles, []⟩

/-- What a command leaves behind: the text that it prints, or its failure, and
the files. -/
abbrev Step := Except Failure String × FileTree

/-- A line of text. -/
def line (text : String) : String :=
  text ++ "\n"

/-- JSON on lines of its own. -/
def jsonLines (json : Json) : String :=
  line json.pretty

def boolText (b : Bool) : String :=
  if b then "true" else "false"

namespace Setting

def classpath (s : Setting) : List String :=
  Settings.classpath s.environment

def resolver (s : Setting) : Resolver :=
  .ofClasspath s.classpath s.agent

/-- How the location of a region is found, for its import or its export. -/
def rule (s : Setting) (importing : Bool) : LocationRule :=
  if importing then .importing (some s.environment) []
  else .exporting (some s.environment) [] s.workingDirectory

/-- The resource at a location. -/
def resource (s : Setting) (tree : FileTree) (location : String) :
    Except Failure Resource :=
  (s.resolver.resolve tree location).mapError .ofResource

/-- The resource at a location and what is in it. -/
def read (s : Setting) (tree : FileTree) (location : String) :
    Except Failure (Resource × Bytes) := do
  let resource ← s.resource tree location
  let resource ← (resource.readable tree).mapError (fun e =>
    (Failure.ofResource e).within s!"Cannot read snapshot at {location}")
  let bytes ←
    (resource.read defaultBufferSize tree).mapError .ofResource
  return (resource, bytes)

/-- The resource at a location and the instances in it. -/
def readSnapshot (s : Setting) (tree : FileTree) (location : String) :
    Except Failure (Resource × List (Portable Datum)) := do
  let (resource, bytes) ← s.read tree location
  let instances ← (Snapshot.decode .standard bytes).mapError (fun e =>
    (Failure.ofConversion e).within
      s!"Invalid snapshot in {resource.description}")
  return (resource, instances)

end Setting

/-- The resource of a region, as text. -/
def resourceLines (region : RegionId) (direction : String) (tree : FileTree)
    (r : Resource) : String :=
  line ("Region:      " ++ region.fullPath) ++
  line ("Direction:   " ++ direction) ++
  line ("Location:    " ++ r.location) ++
  line ("Resource:    " ++ r.description) ++
  line ("Exists: " ++ boolText (r.isThere tree) ++
    "  Readable: " ++ boolText (r.isReadable tree) ++
    "  Writable: " ++ boolText (r.isWritable tree))

/-- The resource of a region, as JSON. -/
def resourceJson (region : RegionId) (direction : String) (tree : FileTree)
    (r : Resource) : Json :=
  .obj (Entries.ofList [
    ("region", .str region.fullPath),
    ("direction", .str direction),
    ("location", .str r.location),
    ("description", .str r.description),
    ("exists", .bool (r.isThere tree)),
    ("readable", .bool (r.isReadable tree)),
    ("writable", .bool (r.isWritable tree))])

/-- Finds the resource of a region. -/
def regionResource (s : Setting) (tree : FileTree) (region : RegionId)
    (importing : Bool) : Except ExchangeError (Option Resource) :=
  let rule := s.rule importing
  let finder :=
    if importing then RegionResolver.importing rule (rule.resolver s.agent)
    else .exporting rule (rule.resolver s.agent)
  finder.resolve tree region

/-- Shows the resource of a region. -/
def resolve (s : Setting) (tree : FileTree) (path : String)
    (importing : Bool) : Except Failure String := do
  let region := RegionId.ofPath path
  let direction := if importing then "import" else "export"
  match ← (regionResource s tree region importing).mapError .ofExchange with
  | none =>
      return line s!"No {direction} resource for region {region.fullPath}"
  | some r =>
      return if s.json then jsonLines (resourceJson region direction tree r)
        else resourceLines region direction tree r

/-- A text in a field of some width. -/
def padRight (width : Nat) (text : String) : String :=
  text ++ .ofList (List.replicate (width - text.length) ' ')

/-- One entry of a snapshot, as text. -/
def entryLine (p : Portable Datum) (index : Nat) : String :=
  let key := (p.key?.map Key.text).getD "-"
  line (Failure.padLeft 4 (toString index) ++ "  " ++ padRight 20 key ++ "  " ++
    p.className ++ s!"  ({p.fields.length} fields)")

/-- One entry of a snapshot, as JSON. -/
def entryJson (p : Portable Datum) : Json :=
  .obj (Entries.ofList [
    ("key", (p.key?.map Key.toJson).getD .null),
    ("type", .str p.className),
    ("fields", .arr (p.fieldNames.map .str))])

/-- Lists the entries of a snapshot. -/
def inspect (s : Setting) (tree : FileTree) (location : String) :
    Except Failure String := do
  let (resource, instances) ← s.readSnapshot tree location
  if s.json then return jsonLines (.arr (instances.map entryJson))
  else
    let head :=
      line s!"{instances.length} entries in {resource.description}"
    let entries := instances.zipIdx.map (fun (p, index) => entryLine p index)
    return head ++ String.join entries

/-- What was written where, as text or as JSON. -/
def writtenText (s : Setting) (source target : Resource) (entries bytes : Nat) :
    String :=
  if s.json then
    jsonLines (.obj (Entries.ofList [
      ("source", .str source.location),
      ("output", .str target.location),
      ("entries", .ofNat entries),
      ("bytes", .ofNat bytes)]))
  else
    line (s!"Wrote {entries} entries ({bytes} bytes) to " ++
      target.description)

/-- The standard form of the snapshot at a location. -/
def normalForm (s : Setting) (tree : FileTree) (location : String) :
    Except Failure (Resource × Nat × Json) := do
  let (resource, instances) ← s.readSnapshot tree location
  let elements ←
    (Snapshot.renderInstances instances).mapError .ofConversion
  return (resource, instances.length, elements)

/-- The resource that may be written at a location. -/
def writableResource (s : Setting) (tree : FileTree) (location : String) :
    Except Failure Resource := do
  let target ← s.resource tree location
  (target.writable tree).mapError (fun e => (Failure.ofResource e).within
    s!"Cannot write normalized snapshot to {location}")

/-- Writes a snapshot in its standard form. -/
def normalize (s : Setting) (tree : FileTree) (location : String)
    (output : Option String) : Step :=
  match normalForm s tree location with
  | .error failure => (.error failure, tree)
  | .ok (resource, entries, elements) =>
      match output with
      | none => (.ok (jsonLines elements), tree)
      | some output =>
          match writableResource s tree output with
          | .error failure => (.error failure, tree)
          | .ok target =>
              let bytes := Snapshot.document elements
              match target.write defaultBufferSize tree bytes with
              | (.error e, tree) => (.error (.ofResource e), tree)
              | (.ok (), tree) =>
                  (.ok (writtenText s resource target entries bytes.length),
                    tree)

/-- Runs a command. -/
def perform (s : Setting) (tree : FileTree) : Command → Step
  | .resolve region importing => (resolve s tree region importing, tree)
  | .inspect location => (inspect s tree location, tree)
  | .normalize location output => normalize s tree location output

/-- The locations that a command works on. -/
def locations (s : Setting) : Command → List String
  | .resolve path importing =>
      ((s.rule importing).location (.ofPath path)).toOption.toList
  | .inspect location => [location]
  | .normalize location output => location :: output.toList

/-- What a run of the program leaves behind. -/
structure Outcome where
  exitCode : Nat
  stdout : String
  stderr : String
  usage : Option UsageError
  tree : FileTree

/-- What the command of a command line sees. -/
def settingOf (processVariables : List (String × String))
    (workingDirectory : String) (agent : Agent) (invocation : Invocation) :
    Setting :=
  ⟨environmentOf processVariables invocation, invocation.json,
    workingDirectory, agent⟩

/-- Runs a command line. -/
def run (processVariables : List (String × String)) (workingDirectory : String)
    (agent : Agent) (tree : FileTree) (arguments : List String) : Outcome :=
  match parse arguments with
  | .error e =>
      ⟨2, "", line ("error: " ++ (e.propertyMessage?.getD "bad usage")),
        some e, tree⟩
  | .ok invocation =>
      let setting :=
        settingOf processVariables workingDirectory agent invocation
      match perform setting tree invocation.command with
      | (.ok text, tree) => ⟨0, text, "", none, tree⟩
      | (.error failure, tree) => ⟨1, "", failure.report, none, tree⟩

/-- The paths of the files that a command line may look at. -/
def paths (processVariables : List (String × String))
    (workingDirectory : String) (agent : Agent) (arguments : List String) :
    List String :=
  match parse arguments with
  | .error _ => []
  | .ok invocation =>
      let setting :=
        settingOf processVariables workingDirectory agent invocation
      (locations setting invocation.command).flatMap
        (Loader.ofClasspath setting.classpath setting.agent).paths

end CommandLine
end RegionSnapshot
