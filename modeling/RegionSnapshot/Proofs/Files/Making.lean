/-
What writing to a path leaves alone.  Opening a file for writing may make
directories where nothing stood, and it empties one file, which has the name in
the last step of the path.  Whatever else stands in the tree stays as it was.
-/
import RegionSnapshot.Proofs.Files.Standing

namespace RegionSnapshot

/-- The place has the name in the last step of the path. -/
def Path.Names (path : Path) (place : Place) : Prop :=
  ∃ name, path.steps.getLast? = some (.name name) ∧ place.getLast? = some name

theorem Path.Names.ne_nil {path : Path} {place : Place}
    (h : path.Names place) : place ≠ [] := by
  rintro rfl
  obtain ⟨name, -, hlast⟩ := h
  cases hlast

namespace FileTree

/-- The permissions of what stands at a place, or of what is newly made there. -/
def accessAt (tree : FileTree) (place : Place) : Access :=
  ((tree.node? place).map FileNode.access).getD .full

/-- A file at the place may be read, be it one that stands there or one that is
newly made. -/
def ReadableAt (tree : FileTree) (place : Place) : Prop :=
  (tree.accessAt place).read = true

/-- Outside of `written` the second tree is the first one, but that directories
may have been made where nothing stood. -/
def Spares (written : Place → Prop) (first second : FileTree) : Prop :=
  ∀ place, ¬written place → second.node? place = first.node? place ∨
    first.node? place = none ∧ second.node? place = some (.directory .full)

namespace Spares

variable {written : Place → Prop} {first second third : FileTree}

theorem refl (tree : FileTree) : Spares written tree tree :=
  fun _ _ => .inl rfl

theorem trans (h : Spares written first second)
    (h' : Spares written second third) : Spares written first third := by
  intro place hplace
  rcases h' place hplace with hsame | ⟨hnone, hmade⟩
  · rcases h place hplace with hsame' | ⟨hnone, hmade⟩
    · exact .inl (hsame.trans hsame')
    · exact .inr ⟨hnone, hsame.trans hmade⟩
  · rcases h place hplace with hsame' | ⟨-, hmade'⟩
    · exact .inr ⟨hsame'.symm.trans hnone, hmade⟩
    · rw [hmade'] at hnone
      cases hnone

/-- What is spared and no directory is there as it was. -/
theorem node_of_file (h : Spares written first second) {place : Place}
    (hplace : ¬written place) {content : Bytes} {access : Access}
    (hnode : second.node? place = some (.file content access)) :
    first.node? place = some (.file content access) := by
  rcases h place hplace with hsame | ⟨-, hmade⟩
  · rw [← hsame, hnode]
  · rw [hmade] at hnode
    cases hnode

/-- What stands is not replaced by a directory. -/
theorem node_of_stands (h : Spares written first second) {place : Place}
    (hplace : ¬written place) {node : FileNode}
    (hnode : first.node? place = some node) :
    second.node? place = some node := by
  rcases h place hplace with hsame | ⟨hnone, -⟩
  · rw [hsame, hnode]
  · rw [hnone] at hnode
    cases hnode

theorem accessAt (h : Spares written first second) {place : Place}
    (hplace : ¬written place) :
    second.accessAt place = first.accessAt place := by
  rcases h place hplace with hsame | ⟨hnone, hmade⟩
  · rw [FileTree.accessAt, hsame]
    rfl
  · rw [FileTree.accessAt, FileTree.accessAt, hnone, hmade]
    rfl

theorem set {tree : FileTree} {place : Place} (hne : place ≠ [])
    (h : written place) (node : FileNode) :
    Spares written tree (tree.set place node) := by
  intro other hother
  left
  rw [node?_set tree place other node hne, if_neg]
  rintro rfl
  exact hother h

theorem overwrite {tree : FileTree} {place : Place} (hne : place ≠ [])
    (h : written place) (bytes : Bytes) :
    Spares written tree (tree.overwrite place bytes) := by
  rw [FileTree.overwrite]
  split
  · exact .set hne h _
  · exact .refl tree

end Spares

/-- Where a path would make something new: below the directory that all steps
but the last lead to. -/
theorem exists_of_target {tree : FileTree} {taken : FileError} {path : Path}
    {parent : Place} {name : String}
    (h : tree.target taken path = .ok (parent, name)) :
    path.isEmpty = false ∧ ∃ steps, path.steps = steps ++ [.name name] ∧
      tree.follow (tree.origin path.absolute) steps = .ok parent ∧
      tree.isDirectoryAt parent = true := by
  rw [target] at h
  split at h
  · cases h
  · rename_i hempty
    obtain ⟨around, haround, h⟩ := Outcome.bind_eq_ok_iff.1 h
    cases hdirectory : tree.isDirectoryAt around with
    | false =>
        rw [hdirectory] at h
        cases h
    | true =>
        rw [hdirectory, if_neg (by decide)] at h
        split at h
        · rename_i last hlast
          cases h
          obtain ⟨steps, hsteps⟩ := List.getLast?_eq_some_iff.1 hlast
          rw [hsteps, List.dropLast_concat] at haround
          exact ⟨by simpa using hempty, steps, hsteps, haround, hdirectory⟩
        · cases h

theorem target_eq_ok {tree : FileTree} {taken : FileError} {path : Path}
    {parent : Place} {name : String}
    (h : tree.target taken path = .ok (parent, name)) :
    path.Names (parent ++ [name]) := by
  obtain ⟨-, steps, hsteps, -⟩ := exists_of_target h
  exact ⟨name, by rw [hsteps, List.getLast?_concat], List.getLast?_concat⟩

theorem makeDirectory_eq_ok {tree after : FileTree} {path : Path}
    (h : tree.makeDirectory path = .ok after) :
    ∃ place, place ≠ [] ∧ tree.node? place = none ∧
      after = tree.set place (.directory .full) := by
  obtain ⟨⟨parent, name⟩, -, h⟩ := Outcome.bind_eq_ok_iff.1 h
  dsimp only at h
  split at h
  · cases h
  · rename_i hnode
    split at h
    · cases h
    · cases h
      exact ⟨parent ++ [name], by simp, by simpa using hnode, rfl⟩

variable (written : Place → Prop)

theorem spares_ensureDirectory (tree : FileTree) (path : Path) :
    Spares written tree (tree.ensureDirectory path).2 := by
  rw [ensureDirectory]
  split
  · rename_i after hmake
    obtain ⟨place, hne, hnone, rfl⟩ := makeDirectory_eq_ok hmake
    intro other _
    dsimp only
    rw [node?_set tree place other _ hne]
    by_cases hother : other = place
    · exact .inr ⟨hother ▸ hnone, if_pos hother⟩
    · exact .inl (if_neg hother)
  · exact .refl tree

/-- Making directories changes nothing that stands. -/
theorem spares_makeDirectories (tree : FileTree) (absolute : Bool)
    (steps : List PathStep) :
    Spares written tree (tree.makeDirectories absolute steps).2 := by
  induction steps generalizing tree with
  | nil => exact .refl tree
  | cons step rest ih =>
      have hfirst := spares_ensureDirectory written tree
        ⟨absolute, (step :: rest).reverse, false⟩
      rw [makeDirectories]
      split
      · rename_i made hmade
        rw [hmade] at hfirst
        have hrest := ih made
        split
        · rename_i around haround
          rw [haround] at hrest
          exact (hfirst.trans hrest).trans
            (spares_ensureDirectory written around _)
        · exact hfirst.trans hrest
      · exact hfirst

theorem spares_makeParents (tree : FileTree) (path : Path) :
    Spares written tree (tree.makeParents path).2 := by
  rw [makeParents]
  split
  · exact spares_makeDirectories written tree _ _
  · exact .refl tree

variable {written}

/-- What a path is emptied or made at is no directory, and the path does not ask
for one. -/
theorem exists_of_truncate {tree after : FileTree} {path : Path}
    {place : Place} (h : tree.truncate path = .ok (place, after)) :
    ∃ parent name, tree.target .isADirectory path = .ok (parent, name) ∧
      place = parent ++ [name] ∧
      after = tree.set place (.file [] (tree.accessAt place)) ∧
      tree.isDirectoryAt place = false ∧ path.asDirectory = false := by
  obtain ⟨⟨parent, name⟩, htarget, h⟩ := Outcome.bind_eq_ok_iff.1 h
  refine ⟨parent, name, htarget, ?_⟩
  dsimp only at h
  split at h
  · cases h
  · rename_i hslash
    split at h
    · cases h
    · rename_i hnode
      split at h
      · cases h
      · cases h
        exact ⟨rfl, by simp [accessAt, hnode, FileNode.access],
          by simp [isDirectoryAt, hnode, FileNode.isDirectory],
          by simpa using hslash⟩
    · rename_i hnode
      split at h
      · cases h
      · cases h
        exact ⟨rfl, by simp [accessAt, hnode], by simp [isDirectoryAt, hnode],
          by simpa using hslash⟩

theorem truncate_eq_ok {tree after : FileTree} {path : Path} {place : Place}
    (h : tree.truncate path = .ok (place, after)) :
    path.Names place ∧
      after = tree.set place (.file [] (tree.accessAt place)) := by
  obtain ⟨parent, name, htarget, rfl, hafter, -⟩ := exists_of_truncate h
  exact ⟨target_eq_ok htarget, hafter⟩

/-- Opening a file for writing writes no file but the one that has the last
name of the path. -/
theorem spares_openForWriting {path : Path}
    (h : ∀ place, path.Names place → written place) (tree : FileTree) :
    Spares written tree (tree.openForWriting path).2 := by
  have hparents := spares_makeParents written tree path
  rw [openForWriting]
  split
  · rename_i error made hmade
    rw [hmade] at hparents
    exact hparents
  · rename_i made hmade
    rw [hmade] at hparents
    split
    · rename_i place after htruncate
      obtain ⟨hnames, rfl⟩ := truncate_eq_ok htruncate
      exact hparents.trans (.set hnames.ne_nil (h place hnames) _)
    · exact hparents

/-- An opening that succeeds makes directories and empties one file. -/
theorem exists_of_openForWriting {tree after : FileTree} {path : Path}
    {place : Place} (h : tree.openForWriting path = (.ok place, after)) :
    ∃ made, tree.makeParents path = (.ok (), made) ∧
      made.truncate path = .ok (place, after) := by
  rw [openForWriting] at h
  split at h
  · cases h
  · rename_i made hmade
    split at h
    · rename_i htruncate
      cases h
      exact ⟨made, hmade, htruncate⟩
    · cases h

theorem names_of_openForWriting {tree after : FileTree} {path : Path}
    {place : Place} (h : tree.openForWriting path = (.ok place, after)) :
    path.Names place := by
  obtain ⟨made, -, htruncate⟩ := exists_of_openForWriting h
  exact (truncate_eq_ok htruncate).1

/-- A path whose last step is a name leads to a place of that name. -/
theorem names_of_follow {tree : FileTree} {path : Path} {place : Place}
    {name : String} (hname : path.steps.getLast? = some (.name name))
    (h : tree.follow (tree.origin path.absolute) path.steps = .ok place) :
    path.Names place := by
  obtain ⟨steps, hsteps⟩ := List.getLast?_eq_some_iff.1 hname
  rw [hsteps] at h
  obtain ⟨next, -, -, hlast⟩ := follow_concat_eq_ok h
  obtain ⟨rfl, -⟩ := follow_name_eq_ok hlast
  exact ⟨name, hname, List.getLast?_concat⟩

theorem names_of_locate {tree : FileTree} {path : Path} {place : Place}
    {node : FileNode} {name : String}
    (hname : path.steps.getLast? = some (.name name))
    (h : tree.locate path = .ok (place, node)) : path.Names place :=
  names_of_follow hname (locate_eq_ok_iff.1 h).2.1

/-- What a path leads to in trees of one shape is the same, if the trees hold
the same at the places of its last name. -/
theorem SameShape.locate_eq {first second : FileTree}
    (h : first.SameShape second) {path : Path} {name : String}
    (hname : path.steps.getLast? = some (.name name))
    (hsame : ∀ place, path.Names place →
      first.node? place = second.node? place) :
    first.locate path = second.locate path := by
  cases hempty : path.isEmpty with
  | true =>
      rw [locate, locate, hempty]
      rfl
  | false =>
      have horigin : first.origin path.absolute =
          second.origin path.absolute := by
        rw [origin, origin, h.workingDirectory]
      rw [FileTree.locate_eq hempty, FileTree.locate_eq hempty, horigin,
        h.follow]
      cases hfollow : second.follow (second.origin path.absolute) path.steps with
      | error error => rfl
      | ok place =>
          have hplace := hsame place (names_of_follow hname hfollow)
          simp only [bind, Except.bind, hplace]

end FileTree
end RegionSnapshot
