/-
Exporting a region to its resource and importing it from there.  An export
writes the snapshot of all entries, or nothing where the resource cannot be
written.  An import fills only an empty region; it decodes the whole document
before the first entry is put.
-/
import RegionSnapshot.Exchange.Location
import RegionSnapshot.Gate
import RegionSnapshot.Region.Basic
import RegionSnapshot.Resource.Transfer
import RegionSnapshot.Snapshot.Document

namespace RegionSnapshot

/-- How bytes get into a resource: through a buffer, or not at all, either
because nothing is accepted or because every writing fails. -/
inductive Writer
  | buffered (size : Nat)
  | refusing
  | failing (cause : IoError)
  deriving Repr

namespace Writer

/-- The writer takes a resource on. -/
def accepts (tree : FileTree) (r : Resource) : Writer → Bool
  | .buffered _ => r.isWritable tree
  | .refusing => false
  | .failing _ => true

/-- Writes bytes to a resource. -/
def write (tree : FileTree) (r : Resource) (bytes : Bytes) : Writer →
    Except ResourceError Unit × FileTree
  | .buffered size => r.write size tree bytes
  | .refusing => (.error (.notWritable r.location), tree)
  | .failing cause =>
      (.error (.writeFailed r.location bytes.length cause), tree)

end Writer

/-- What exports and imports regions. -/
structure Exchange (α : Type) where
  gate : Gate (Region α)
  exportTo : RegionResolver
  importFrom : RegionResolver
  readSize : Nat
  writer : Writer
  registry : Registry α

namespace Exchange

variable {α : Type}

/-- An exchange by the settings of an environment; exports go to files below
`directory`. -/
def ofEnvironment (environment : Option Environment)
    (components : List (String × Json)) (directory : String) (agent : Agent)
    (registry : Registry α) : Exchange α :=
  let exportRule := LocationRule.exporting environment components directory
  let importRule := LocationRule.importing environment components
  ⟨.ofEnvironment environment,
    .exporting exportRule (exportRule.resolver agent),
    .importing importRule (importRule.resolver agent),
    defaultBufferSize, .buffered defaultBufferSize, registry⟩

/-- Writes the snapshot of a region; the number of entries written. -/
def exportNow (x : Exchange α) (tree : FileTree) (region : Region α) :
    Except ExchangeError Nat × FileTree :=
  match x.exportTo.resolve tree region.id with
  | .error error => (.error error, tree)
  | .ok none => (.ok 0, tree)
  | .ok (some resource) =>
      if !x.writer.accepts tree resource then (.ok 0, tree)
      else
        match Snapshot.encodeEntries region.entries with
        | .error cause => (.error (.conversion cause), tree)
        | .ok bytes =>
            match x.writer.write tree resource bytes with
            | (.ok (), tree) => (.ok region.size, tree)
            | (.error cause, tree) => (.error (.resource cause), tree)

/-- The blanks of ASCII. -/
def isAsciiBlank (b : UInt8) : Bool :=
  b == 32 || b == 9 || b == 10 || b == 12 || b == 13

/-- The entry of the element at `index`: typed if its class is registered. -/
def entry (registry : Registry α) (region : RegionId) (index : Nat)
    (p : Portable α) : Except ExchangeError (Key × Value α) :=
  match p.key? with
  | none => .error (.unresolvableKey region.fullPath index)
  | some key =>
      if registry.contains p.className then
        match Snapshot.toObject registry p with
        | .ok object => .ok (key, .object object)
        | .error cause => .error (.conversion cause)
      else .ok (key, .portable p)

/-- The entries of the elements of a document, from `index` on. -/
def entriesFrom (registry : Registry α) (region : RegionId) (index : Nat) :
    List (Portable α) → Except ExchangeError (List (Key × Value α))
  | [] => .ok []
  | p :: rest => do
      let first ← entry registry region index p
      let others ← entriesFrom registry region (index + 1) rest
      return first :: others

/-- The entries of a document; a blank one has none. -/
def entriesOf (registry : Registry α) (region : RegionId) (bytes : Bytes) :
    Except ExchangeError (List (Key × Value α)) :=
  if bytes.all isAsciiBlank then .ok []
  else
    match Snapshot.decode registry bytes with
    | .error cause => .error (.conversion cause)
    | .ok elements => entriesFrom registry region 0 elements

/-- Fills an empty region from its snapshot; the number of elements read. -/
def importNow (x : Exchange α) (tree : FileTree) (region : Region α) :
    Except ExchangeError Nat × Region α :=
  if !region.isEmpty then (.ok 0, region)
  else
    match x.importFrom.resolve tree region.id with
    | .error error => (.error error, region)
    | .ok none => (.ok 0, region)
    | .ok (some resource) =>
        match resource.read x.readSize tree with
        | .error cause => (.error (.resource cause), region)
        | .ok bytes =>
            match entriesOf x.registry region.id bytes with
            | .error error => (.error error, region)
            | .ok entries => (.ok entries.length, region.putAll entries)

/-- Exports a region if the gate lets it out. -/
def exportFrom (x : Exchange α) (tree : FileTree) (region : Region α) :
    Except ExchangeError Nat × FileTree :=
  if x.gate.shouldExport region then x.exportNow tree region
  else (.ok 0, tree)

/-- Imports a region if the gate lets it in. -/
def importInto (x : Exchange α) (tree : FileTree) (region : Region α) :
    Except ExchangeError Nat × Region α :=
  if x.gate.shouldImport region then x.importNow tree region
  else (.ok 0, region)

end Exchange
end RegionSnapshot
