/-
Snapshots as documents.  A document is the pretty text of an array with one
object for each entry, its key as member `@identifier`.  Decoding gives the
instances in the order of the elements; an instance becomes a typed object by
the registry.
-/
import RegionSnapshot.Snapshot.Element
import RegionSnapshot.Value

namespace RegionSnapshot
namespace Snapshot

variable {α : Type}

/-- The JSON object of a value. -/
def renderValue : Value α → Except ConversionError Json
  | .object value => value.render
  | .portable value => value.render

/-- An object with a key as its member `@identifier`. -/
def withKey (key : Key) : Json → Json
  | .obj members => .obj (Entries.insert identifierMember key.toJson members)
  | json => json

/-- The element of one entry. -/
def renderEntry (entry : Key × Value α) : Except ConversionError Json :=
  (renderValue entry.2).map (withKey entry.1)

/-- The element of an instance, with its identifier if it has one. -/
def renderInstance (p : Portable α) : Except ConversionError Json :=
  p.render.map (fun json =>
    match p.identifier with
    | some key => withKey key json
    | none => json)

/-- The elements of entries. -/
def renderEntries (entries : List (Key × Value α)) :
    Except ConversionError Json :=
  (entries.mapM renderEntry).map .arr

/-- The elements of instances. -/
def renderInstances (instances : List (Portable α)) :
    Except ConversionError Json :=
  (instances.mapM renderInstance).map .arr

/-- The document of an array of elements. -/
def document (elements : Json) : Bytes :=
  Utf8.encode elements.pretty

/-- The document of entries. -/
def encodeEntries (entries : List (Key × Value α)) :
    Except ConversionError Bytes :=
  (renderEntries entries).map document

/-- The document of instances. -/
def encodeInstances (instances : List (Portable α)) :
    Except ConversionError Bytes :=
  (renderInstances instances).map document

/-- The instances that a document holds. -/
def decode (registry : Registry α) (bytes : Bytes) :
    Except ConversionError (List (Portable α)) :=
  match Utf8.decode bytes with
  | .error e => .error (.failed "bytes" "JSON" (.bytes e))
  | .ok text => Portable.parseElements registry Stage.standard text

/-- The typed object of an instance: the one that it carries, else the one
that its JSON object is. -/
def toObject (registry : Registry α) (p : Portable α) :
    Except ConversionError (TypedObject α) :=
  match p.object with
  | some object => .ok object
  | none => p.render >>= registry.readObject

end Snapshot
end RegionSnapshot
