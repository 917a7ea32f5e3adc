/-
What overwriting a file does to a tree.  Directories may be made where nothing
stood, and then one file is emptied and filled again, or nothing else happens.
So every path leads where it led before, the path that was opened leads to what
was put there, and all other files are as they were.
-/
import RegionSnapshot.Proofs.Files.Making

namespace RegionSnapshot
namespace FileTree

variable {first second third tree : FileTree} {path : Path} {place : Place}
variable {written : Place → Prop}

/-- Whatever stands in the first tree stands in the second one, and directories
are directories there. -/
structure Extends (first second : FileTree) : Prop where
  workingDirectory : second.workingDirectory = first.workingDirectory
  stands : ∀ place, (first.node? place).isSome = true →
    (second.node? place).isSome = true
  directory : ∀ place, first.isDirectoryAt place = true →
    second.isDirectoryAt place = true

namespace Extends

theorem trans (h : first.Extends second) (h' : second.Extends third) :
    first.Extends third where
  workingDirectory := h'.workingDirectory.trans h.workingDirectory
  stands place hplace := h'.stands place (h.stands place hplace)
  directory place hplace := h'.directory place (h.directory place hplace)

theorem origin_eq (h : first.Extends second) (absolute : Bool) :
    second.origin absolute = first.origin absolute := by
  rw [origin, origin, h.workingDirectory]

/-- Steps that could be followed still can. -/
theorem follow (h : first.Extends second) {steps : List PathStep}
    {start last : Place} (hfollow : first.follow start steps = .ok last) :
    second.follow start steps = .ok last := by
  induction steps generalizing start with
  | nil => exact hfollow
  | cons step rest ih =>
      simp only [FileTree.follow] at hfollow ⊢
      split at hfollow
      · cases hfollow
      · rename_i hdirectory
        rw [Bool.not_eq_true', Bool.not_eq_false] at hdirectory
        rw [h.directory start hdirectory, if_neg (by decide)]
        cases step with
        | here | up => exact ih hfollow
        | name name =>
            dsimp only at hfollow ⊢
            split at hfollow
            · cases hfollow
            · rename_i hnode
              rw [Bool.not_eq_true, Option.isNone_eq_false_iff] at hnode
              have hstill := Option.isNone_eq_false_iff.2 (h.stands _ hnode)
              rw [hstill, if_neg (by decide)]
              exact ih hfollow

end Extends

/-- A file in place of what is no directory takes no directory away. -/
theorem isDirectoryAt_set_file (hne : place ≠ [])
    (hplace : tree.isDirectoryAt place = false) (bytes : Bytes)
    (access : Access) (other : Place) :
    (tree.set place (.file bytes access)).isDirectoryAt other =
      tree.isDirectoryAt other := by
  by_cases hother : other = place
  · subst hother
    rw [hplace, isDirectoryAt, node?_set tree other other _ hne, if_pos rfl]
    rfl
  · rw [isDirectoryAt, isDirectoryAt, node?_set tree place other _ hne,
      if_neg hother]

/-- The second tree is the first one, but that directories may have been made
where nothing stood, and files written at the places in `written`. -/
structure Changes (written : Place → Prop) (first second : FileTree) : Prop where
  standing : first.Extends second
  spares : Spares written first second

namespace Changes

theorem trans (h : Changes written first second)
    (h' : Changes written second third) : Changes written first third :=
  ⟨h.standing.trans h'.standing, h.spares.trans h'.spares⟩

/-- Where nothing is written, all that stood is as it was. -/
theorem of_spares (hplace : second.workingDirectory = first.workingDirectory)
    (h : ∀ written, Spares written first second) :
    Changes written first second := by
  have hkept : ∀ place node, first.node? place = some node →
      second.node? place = some node :=
    fun _ _ => (h fun _ => False).node_of_stands id
  refine ⟨⟨hplace, ?_, ?_⟩, h written⟩
  · intro place hstands
    obtain ⟨node, hnode⟩ := Option.isSome_iff_exists.1 hstands
    rw [hkept place node hnode]
    rfl
  · intro place hdirectory
    rw [isDirectoryAt] at hdirectory ⊢
    cases hnode : first.node? place with
    | none => simp [hnode] at hdirectory
    | some node => rwa [hkept place node hnode, ← hnode]

/-- A file is put where no directory stands. -/
theorem set_file (hne : place ≠ []) (hplace : tree.isDirectoryAt place = false)
    (bytes : Bytes) (access : Access) :
    Changes (fun other => other = place) tree
      (tree.set place (.file bytes access)) where
  standing := by
    refine ⟨rfl, ?_, ?_⟩
    · intro other hstands
      rw [node?_set tree place other _ hne]
      split
      · rfl
      · exact hstands
    · intro other hdirectory
      rwa [isDirectoryAt_set_file hne hplace]
  spares := .set hne (by rfl) _

/-- Paths lead to the same files, but for those that were written. -/
theorem locate (h : Changes written first second) {other : Place}
    {node : FileNode} (hother : ¬written other)
    (hlocate : first.locate path = .ok (other, node)) :
    second.locate path = .ok (other, node) := by
  obtain ⟨hempty, hfollow, hnode, hslash⟩ := locate_eq_ok_iff.1 hlocate
  refine locate_eq_ok_iff.2 ⟨hempty, ?_, ?_, hslash⟩
  · rw [h.standing.origin_eq]
    exact h.standing.follow hfollow
  · exact h.spares.node_of_stands hother hnode

end Changes

/-- But for the places in `written`, the same files stand in both trees, with
the same content. -/
def SameFiles (written : Place → Prop) (first second : FileTree) : Prop :=
  ∀ place, ¬written place → ∀ content access,
    first.node? place = some (.file content access) ↔
      second.node? place = some (.file content access)

theorem Changes.sameFiles (h : Changes written first second) :
    SameFiles written first second :=
  fun _ hplace _ _ =>
    ⟨h.spares.node_of_stands hplace, h.spares.node_of_file hplace⟩

/-! Making directories. -/

theorem workingDirectory_ensureDirectory (tree : FileTree) (path : Path) :
    (tree.ensureDirectory path).2.workingDirectory = tree.workingDirectory := by
  rw [ensureDirectory]
  split
  · rename_i made hmake
    obtain ⟨place, -, -, rfl⟩ := makeDirectory_eq_ok hmake
    rfl
  · rfl

theorem workingDirectory_makeDirectories (tree : FileTree) (absolute : Bool)
    (steps : List PathStep) :
    (tree.makeDirectories absolute steps).2.workingDirectory =
      tree.workingDirectory := by
  induction steps generalizing tree with
  | nil => rfl
  | cons step rest ih =>
      have hfirst := workingDirectory_ensureDirectory tree
        ⟨absolute, (step :: rest).reverse, false⟩
      rw [makeDirectories]
      split
      · rename_i made hmade
        rw [hmade] at hfirst
        have hrest := (ih made).trans hfirst
        split
        · rename_i around haround
          rw [haround] at hrest
          exact (workingDirectory_ensureDirectory around _).trans hrest
        · exact hrest
      · exact hfirst

theorem changes_makeParents (written : Place → Prop) (tree : FileTree)
    (path : Path) : Changes written tree (tree.makeParents path).2 := by
  refine .of_spares ?_ fun written => spares_makeParents written tree path
  rw [makeParents]
  split
  · exact workingDirectory_makeDirectories tree _ _
  · rfl

/-! Opening a file and writing to it. -/

theorem node?_of_truncate {after : FileTree}
    (h : tree.truncate path = .ok (place, after)) :
    after.node? place = some (.file [] (tree.accessAt place)) := by
  obtain ⟨parent, name, -, rfl, rfl, -⟩ := exists_of_truncate h
  rw [node?_set _ _ _ _ (by simp), if_pos rfl]

/-- Emptying a file and filling it again changes that file. -/
theorem changes_of_truncate {after : FileTree}
    (h : tree.truncate path = .ok (place, after)) (bytes : Bytes) :
    Changes (fun other => other = place) tree (after.overwrite place bytes) := by
  rw [overwrite_of_empty (node?_of_truncate h)]
  obtain ⟨parent, name, -, rfl, rfl, hplace, -⟩ := exists_of_truncate h
  have hne : parent ++ [name] ≠ [] := by simp
  refine (Changes.set_file hne hplace [] _).trans (.set_file hne ?_ bytes _)
  rw [isDirectoryAt_set_file hne hplace, hplace]

/-- A path that was emptied or made leads to what is written there, and the
permissions stay. -/
theorem hasFile_of_truncate {after : FileTree}
    (h : tree.truncate path = .ok (place, after)) (bytes : Bytes) :
    (after.overwrite place bytes).HasFile path place bytes
      (tree.accessAt place) := by
  have hchange := changes_of_truncate h bytes
  have hnode : (after.overwrite place bytes).node? place =
      some (.file bytes (tree.accessAt place)) := by
    obtain ⟨parent, name, -, rfl, -⟩ := exists_of_truncate h
    rw [overwrite_of_empty (node?_of_truncate h),
      node?_set _ _ _ _ (by simp), if_pos rfl]
  obtain ⟨parent, name, htarget, rfl, -, -, hslash⟩ := exists_of_truncate h
  obtain ⟨hempty, steps, hsteps, hfollow, hdirectory⟩ :=
    exists_of_target htarget
  refine locate_eq_ok_iff.2 ⟨hempty, ?_, hnode, ?_⟩
  · rw [hsteps, follow_append, hchange.standing.origin_eq]
    refine Outcome.bind_eq_ok_iff.2
      ⟨parent, hchange.standing.follow hfollow, ?_⟩
    simp [follow, hchange.standing.directory parent hdirectory, hnode]
  · intro hdirectory'
    rw [hslash] at hdirectory'
    cases hdirectory'

theorem hasFile_of_openForWriting {after : FileTree}
    (h : tree.openForWriting path = (.ok place, after)) (bytes : Bytes) :
    (after.overwrite place bytes).HasFile path place bytes
      (tree.accessAt place) := by
  obtain ⟨made, hmake, htruncate⟩ := exists_of_openForWriting h
  have hmade := spares_makeParents (fun _ => False) tree path
  rw [hmake] at hmade
  rw [← hmade.accessAt id]
  exact hasFile_of_truncate htruncate bytes

/-- What is written into a file that was opened changes that file. -/
theorem changes_of_openForWriting {after : FileTree}
    (h : tree.openForWriting path = (.ok place, after)) (bytes : Bytes) :
    Changes (fun other => other = place) tree (after.overwrite place bytes) := by
  obtain ⟨made, hmake, htruncate⟩ := exists_of_openForWriting h
  have hmade := changes_makeParents (fun other => other = place) tree path
  rw [hmake] at hmade
  exact hmade.trans (changes_of_truncate htruncate bytes)

/-- An opening that fails changes no file. -/
theorem changes_of_openForWriting_error {after : FileTree} {error : FileError}
    (h : tree.openForWriting path = (.error error, after)) :
    Changes written tree after := by
  have hmade := changes_makeParents written tree path
  rw [openForWriting] at h
  split at h
  · rename_i made hmake
    rw [hmake] at hmade
    cases h
    exact hmade
  · rename_i made hmake
    rw [hmake] at hmade
    split at h
    · cases h
    · cases h
      exact hmade

end FileTree
end RegionSnapshot
