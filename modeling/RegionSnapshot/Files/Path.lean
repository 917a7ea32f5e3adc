/-
Paths.  A path is read as steps from the root or from the working directory:
into a directory by name, up to the directory around it, or nowhere.  A slash
at the end asks for a directory.  The ancestors of a path are found by its
steps alone, without a look at the files.
-/
import RegionSnapshot.Text.Split

namespace RegionSnapshot

/-- One step of a path. -/
inductive PathStep
  | name (name : String)
  | up
  | here
  deriving DecidableEq, Repr

/-- A path, read. -/
structure Path where
  absolute : Bool
  steps : List PathStep
  asDirectory : Bool
  deriving DecidableEq, Repr

namespace PathStep

/-- The step of a piece between slashes; empty pieces are none. -/
def ofPiece? (piece : String) : Option PathStep :=
  if piece = "" then none
  else if piece = "." then some .here
  else if piece = ".." then some .up
  else some (.name piece)

end PathStep

namespace Path

/-- The path that a text writes. -/
def ofText (text : String) : Path :=
  ⟨Text.startsWith "/" text,
    (Text.fields '/' text).filterMap PathStep.ofPiece?,
    Text.endsWith '/' text⟩

/-- The empty text is no path to anything. -/
def isEmpty (p : Path) : Bool :=
  !p.absolute && p.steps.isEmpty

/-- The steps that count for ancestors: a step to nowhere counts only at the
start of a relative path. -/
def countedSteps (p : Path) : List PathStep :=
  match p.absolute, p.steps with
  | false, .here :: rest => .here :: rest.filter (· ≠ .here)
  | _, steps => steps.filter (· ≠ .here)

/-- Leading parts of a list, longest first, the list itself not among them. -/
def properPrefixes {β : Type} : List β → List (List β)
  | [] => []
  | step :: rest => (properPrefixes rest).map (step :: ·) ++ [[]]

/-- The paths around a path, nearest first. -/
def ancestors (p : Path) : List Path :=
  (properPrefixes p.countedSteps).map (fun steps => ⟨p.absolute, steps, false⟩)

/-- The path around a path. -/
def parent? (p : Path) : Option Path :=
  p.ancestors.head?

/-- The places that a path passes on its way from `place`, last one first. -/
def passed (place : List String) : List PathStep → List (List String)
  | [] => [place]
  | .here :: rest => passed place rest
  | .up :: rest => passed place.dropLast rest ++ [place]
  | .name name :: rest => passed (place ++ [name]) rest ++ [place]

/-- The text of `entry` below `root`: an absolute entry replaces the root. -/
def join (root entry : String) : String :=
  if Text.startsWith "/" entry then entry
  else if root.isEmpty || Text.endsWith '/' root then root ++ entry
  else root ++ "/" ++ entry

end Path
end RegionSnapshot
