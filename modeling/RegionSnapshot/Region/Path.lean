/-
Names and paths of regions.  The full path of a root region is a slash and its
name; that of a subregion is the path of its parent, a slash and its name.
-/
import RegionSnapshot.Text.Split

namespace RegionSnapshot

/-- The name of a region and its full path. -/
structure RegionId where
  name : String
  fullPath : String
  deriving DecidableEq, Repr

namespace RegionId

def root (name : String) : RegionId :=
  ⟨name, "/" ++ name⟩

/-- The region called `name` below the region at `parent`. -/
def subregion (parent name : String) : RegionId :=
  ⟨name, Text.dropTrailing '/' parent ++ "/" ++ name⟩

/-- The region that a path leads to.  Slashes at the end do not count, and a
path without slash is the name of a root region. -/
def ofPath (path : String) : RegionId :=
  let trimmed := Text.dropTrailing '/' path
  match Text.cutLast? '/' trimmed with
  | some (parent, name) =>
      if parent.isEmpty then root name else subregion parent name
  | none => root trimmed

example : ofPath "/Sales/Orders//" = subregion "/Sales" "Orders" := by
  decide +kernel

example : ofPath "Orders" = root "Orders" := by decide +kernel

end RegionId
end RegionSnapshot
