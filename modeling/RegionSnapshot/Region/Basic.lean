/-
Regions in memory.  The entries of a region stand in the order of their keys,
each key once, whatever the order in which they were put.
-/
import RegionSnapshot.Region.Path
import RegionSnapshot.Value

namespace RegionSnapshot

/-- A region with its entries. -/
structure Region (α : Type) where
  id : RegionId
  entries : List (Key × Value α)

namespace Region

variable {α : Type}

/-- A region without entries. -/
def empty (id : RegionId) : Region α :=
  ⟨id, []⟩

def name (r : Region α) : String :=
  r.id.name

def fullPath (r : Region α) : String :=
  r.id.fullPath

def size (r : Region α) : Nat :=
  r.entries.length

def isEmpty (r : Region α) : Bool :=
  r.entries.isEmpty

def get? (r : Region α) (key : Key) : Option (Value α) :=
  Entries.get? key r.entries

def put (r : Region α) (key : Key) (value : Value α) : Region α :=
  { r with entries := Entries.insert key value r.entries }

/-- Puts entries one after the other. -/
def putAll (r : Region α) (entries : List (Key × Value α)) : Region α :=
  { r with entries := Entries.insertAll r.entries entries }

def remove (r : Region α) (key : Key) : Region α :=
  { r with entries := Entries.erase key r.entries }

def clear (r : Region α) : Region α :=
  { r with entries := [] }

theorem get?_put (r : Region α) (key other : Key) (value : Value α) :
    (r.put key value).get? other =
      if other = key then some value else r.get? other :=
  Entries.get?_insert key other value r.entries

theorem get?_remove (r : Region α) (key other : Key) :
    (r.remove key).get? other =
      if other = key then none else r.get? other :=
  Entries.get?_erase key other r.entries

end Region
end RegionSnapshot
