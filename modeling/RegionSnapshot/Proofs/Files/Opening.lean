/-
Opening files for writing.  Where permissions do not matter, the directories
around a file can be made exactly if no file is in the way; and then the file
can be opened unless its path ends in a directory, one that stood before or
one that was only made on the way.
-/
import RegionSnapshot.Proofs.Files.Ways

namespace RegionSnapshot
namespace FileTree

variable {tree made last : FileTree} {absolute : Bool} {place parent : Place}
  {around : List PathStep} {step : PathStep}

/-- All nodes may be written and stand in directories, and so does the working
directory. -/
structure Unrestricted (tree : FileTree) : Prop where
  grounded : tree.Grounded
  workingDirectory : tree.isDirectoryAt tree.workingDirectory = true
  writable : ∀ place node, tree.node? place = some node →
    node.access.write = true

theorem unrestricted_of_nodes
    (hnodes : ∀ entry ∈ tree.nodes,
      tree.isDirectoryAt entry.1.dropLast = true ∧ entry.2.access.write = true)
    (hplace : tree.isDirectoryAt tree.workingDirectory = true) :
    tree.Unrestricted := by
  refine ⟨grounded_of_nodes fun entry hentry => (hnodes entry hentry).1, hplace, ?_⟩
  intro place node hnode
  cases place with
  | nil =>
      cases hnode
      rfl
  | cons name rest =>
      obtain ⟨before, after, hentries, -⟩ := List.lookup_eq_some_iff.1 hnode
      exact (hnodes (name :: rest, node) (by simp [hentries])).2

theorem Unrestricted.isDirectoryAt_origin (h : tree.Unrestricted)
    (absolute : Bool) : tree.isDirectoryAt (tree.origin absolute) = true := by
  cases absolute with
  | true => rfl
  | false => exact h.workingDirectory

theorem Unrestricted.permits (h : tree.Unrestricted)
    (hplace : tree.isDirectoryAt place = true) : tree.permits place = true := by
  obtain ⟨access, hnode⟩ := isDirectoryAt_iff.1 hplace
  have hwritable := h.writable place _ hnode
  rw [FileTree.permits, hnode]
  exact hwritable

section NewDirectory

variable {name : String}

theorem node?_set_directory (tree : FileTree) (parent : Place) (name : String)
    (place : Place) :
    (tree.set (parent ++ [name]) (.directory .full)).node? place =
      if place = parent ++ [name] then some (.directory .full)
      else tree.node? place :=
  node?_set tree _ place _ (by simp)

/-- A directory where nothing stood takes nothing away. -/
theorem node?_set_of_none (hnone : tree.node? (parent ++ [name]) = none)
    {node : FileNode} (hnode : tree.node? place = some node) :
    (tree.set (parent ++ [name]) (.directory .full)).node? place = some node := by
  rw [node?_set_directory, if_neg, hnode]
  rintro rfl
  rw [hnone] at hnode
  cases hnode

theorem isDirectoryAt_set_of_none (hnone : tree.node? (parent ++ [name]) = none)
    (hplace : tree.isDirectoryAt place = true) :
    (tree.set (parent ++ [name]) (.directory .full)).isDirectoryAt place =
      true := by
  obtain ⟨access, hdirectory⟩ := isDirectoryAt_iff.1 hplace
  exact isDirectoryAt_iff.2 ⟨access, node?_set_of_none hnone hdirectory⟩

theorem Unrestricted.set_directory (h : tree.Unrestricted)
    (hparent : tree.isDirectoryAt parent = true)
    (hnone : tree.node? (parent ++ [name]) = none) :
    (tree.set (parent ++ [name]) (.directory .full)).Unrestricted := by
  refine ⟨?_, isDirectoryAt_set_of_none hnone h.workingDirectory, ?_⟩
  · intro around last hlast
    rw [node?_set_directory] at hlast
    split at hlast
    · rename_i heq
      rw [List.append_inj_left' heq rfl]
      exact isDirectoryAt_set_of_none hnone hparent
    · exact isDirectoryAt_set_of_none hnone (h.grounded around last hlast)
  · intro place node hplace
    rw [node?_set_directory] at hplace
    split at hplace
    · cases hplace
      rfl
    · exact h.writable place node hplace

end NewDirectory

/-- The second tree is the first one with directories at all of the places. -/
structure MakesWay (places : List Place) (tree made : FileTree) : Prop where
  unrestricted : made.Unrestricted
  workingDirectory : made.workingDirectory = tree.workingDirectory
  directories : ∀ place ∈ places, made.isDirectoryAt place = true
  kept : ∀ place node, tree.node? place = some node →
    made.node? place = some node
  others : ∀ place, place ∉ places → made.node? place = tree.node? place

namespace MakesWay

variable {places more : List Place}

theorem refl (h : tree.Unrestricted)
    (hplaces : ∀ place ∈ places, tree.isDirectoryAt place = true) :
    MakesWay places tree tree :=
  ⟨h, rfl, hplaces, fun _ _ => id, fun _ _ => rfl⟩

theorem trans (h : MakesWay places tree made) (h' : MakesWay more made last)
    (hsub : ∀ place ∈ places, place ∈ more) : MakesWay more tree last where
  unrestricted := h'.unrestricted
  workingDirectory := h'.workingDirectory.trans h.workingDirectory
  directories := h'.directories
  kept place node hnode := h'.kept place node (h.kept place node hnode)
  others place hplace :=
    (h'.others place hplace).trans
      (h.others place fun hmem => hplace (hsub place hmem))

theorem origin_eq (h : MakesWay places tree made) (absolute : Bool) :
    made.origin absolute = tree.origin absolute := by
  rw [origin, origin, h.workingDirectory]

theorem isDirectoryAt (h : MakesWay places tree made)
    (hplace : tree.isDirectoryAt place = true) :
    made.isDirectoryAt place = true := by
  obtain ⟨access, hnode⟩ := isDirectoryAt_iff.1 hplace
  exact isDirectoryAt_iff.2 ⟨access, h.kept place _ hnode⟩

theorem not_hasFileAt (h : MakesWay places tree made) (hmem : place ∈ places) :
    ¬tree.HasFileAt place := by
  rintro ⟨content, access, hnode⟩
  exact not_hasFileAt_of_isDirectoryAt (h.directories place hmem)
    ⟨content, access, h.kept place _ hnode⟩

/-- A file that stands afterwards stood before. -/
theorem hasFileAt (h : MakesWay places tree made)
    (hfile : made.HasFileAt place) : tree.HasFileAt place := by
  have hplace : place ∉ places := fun hmem =>
    not_hasFileAt_of_isDirectoryAt (h.directories place hmem) hfile
  obtain ⟨content, access, hnode⟩ := hfile
  exact ⟨content, access, (h.others place hplace).symm.trans hnode⟩

/-- One new directory makes the way to it. -/
theorem set {name : String} (h : tree.Unrestricted)
    (hparent : tree.isDirectoryAt parent = true)
    (hnone : tree.node? (parent ++ [name]) = none)
    (hmem : parent ++ [name] ∈ places)
    (hplaces : ∀ place ∈ places,
      tree.isDirectoryAt place = true ∨ place = parent ++ [name]) :
    MakesWay places tree (tree.set (parent ++ [name]) (.directory .full)) where
  unrestricted := h.set_directory hparent hnone
  workingDirectory := rfl
  directories place hplace := by
    rcases hplaces place hplace with hdirectory | rfl
    · exact isDirectoryAt_set_of_none hnone hdirectory
    · exact isDirectoryAt_iff.2
        ⟨.full, (node?_set_directory tree parent name _).trans (if_pos rfl)⟩
  kept _ _ hnode := node?_set_of_none hnone hnode
  others place hplace := by
    rw [node?_set_directory, if_neg]
    rintro rfl
    exact hplace hmem

end MakesWay

/-! One directory. -/

theorem isDirectory_iff {path : Path} : tree.isDirectory path = true ↔
    path.isEmpty = false ∧ ∃ place,
      tree.follow (tree.origin path.absolute) path.steps = .ok place ∧
        tree.isDirectoryAt place = true := by
  rw [isDirectory, find?]
  constructor
  · intro h
    cases hlocate : tree.locate path with
    | error error => simp [hlocate] at h
    | ok found =>
        obtain ⟨place, node⟩ := found
        obtain ⟨hempty, hfollow, hnode, -⟩ := locate_eq_ok_iff.1 hlocate
        refine ⟨hempty, place, hfollow, ?_⟩
        simpa [hlocate, isDirectoryAt, hnode] using h
  · rintro ⟨hempty, place, hfollow, hplace⟩
    obtain ⟨access, hnode⟩ := isDirectoryAt_iff.1 hplace
    rw [locate_eq_ok_iff.2 ⟨hempty, hfollow, hnode, fun _ => rfl⟩]
    rfl

theorem target_concat (tree : FileTree) (taken : FileError) (absolute : Bool)
    (around : List PathStep) (step : PathStep) (slash : Bool) :
    tree.target taken ⟨absolute, around ++ [step], slash⟩ =
      tree.follow (tree.origin absolute) around >>= fun parent =>
        if tree.isDirectoryAt parent then
          match step with
          | .name name => .ok (parent, name)
          | _ => .error taken
        else .error .notADirectory := by
  have hempty : (⟨absolute, around ++ [step], slash⟩ : Path).isEmpty = false := by
    simp [Path.isEmpty]
  rw [target, hempty, List.dropLast_concat, List.getLast?_concat]
  cases tree.follow (tree.origin absolute) around with
  | error error => rfl
  | ok parent =>
      dsimp only [bind, Except.bind]
      cases tree.isDirectoryAt parent with
      | false => rfl
      | true => cases step <;> rfl

/-- Over directories all the way the last name is a target. -/
theorem target_eq_ok_of_directories {taken : FileError} {path : Path}
    {name : String} (hsteps : path.steps = around ++ [.name name])
    (hway : ∀ place ∈ Path.passed (tree.origin path.absolute) around,
      tree.isDirectoryAt place = true) :
    tree.target taken path =
      .ok (Path.lead (tree.origin path.absolute) around, name) := by
  obtain ⟨absolute, steps, slash⟩ := path
  dsimp only at hsteps hway ⊢
  rw [hsteps, target_concat, follow_of_directories hway]
  dsimp only [bind, Except.bind]
  rw [hway _ (Path.lead_mem_passed _ around), if_pos rfl]

theorem makeDirectory_of_none {path : Path} {name : String}
    (htarget : tree.target .alreadyExists path = .ok (parent, name))
    (hnone : tree.node? (parent ++ [name]) = none)
    (hpermits : tree.permits parent = true) :
    tree.makeDirectory path =
      .ok (tree.set (parent ++ [name]) (.directory .full)) := by
  rw [makeDirectory, htarget]
  simp [bind, Except.bind, pure, Except.pure, hnone, hpermits]

theorem makeDirectory_of_stands {path : Path} {name : String}
    (htarget : tree.target .alreadyExists path = .ok (parent, name))
    (hstands : (tree.node? (parent ++ [name])).isSome = true) :
    tree.makeDirectory path = .error .alreadyExists := by
  rw [makeDirectory, htarget]
  dsimp only [bind, Except.bind]
  rw [hstands]
  rfl

/-- A directory that cannot be made does not stand either, if its path does not
lead to one. -/
theorem ensureDirectory_of_not_isDirectory {path : Path} {error : FileError}
    (hmake : tree.makeDirectory path = .error error)
    (h : ∀ place,
      tree.follow (tree.origin path.absolute) path.steps = .ok place →
        tree.isDirectoryAt place = false) :
    tree.ensureDirectory path = (.error error, tree) := by
  have hstands : ¬tree.isDirectory path = true := by
    rw [isDirectory_iff]
    rintro ⟨-, place, hfollow, hplace⟩
    rw [h place hfollow] at hplace
    cases hplace
  rw [ensureDirectory, hmake]
  dsimp only
  rw [if_neg hstands]

/-- Nothing is made where the way around cannot be followed to a directory. -/
theorem ensureDirectory_of_target {error : FileError}
    (htarget : tree.target .alreadyExists
      ⟨absolute, around ++ [step], false⟩ = .error error)
    (h : ∀ parent, tree.follow (tree.origin absolute) around = .ok parent →
      tree.isDirectoryAt parent = false) :
    tree.ensureDirectory ⟨absolute, around ++ [step], false⟩ =
      (.error error, tree) := by
  apply ensureDirectory_of_not_isDirectory
  · rw [makeDirectory, htarget]
    rfl
  · intro place hplace
    obtain ⟨next, hnext, hdirectory, -⟩ := follow_concat_eq_ok hplace
    rw [h next hnext] at hdirectory
    cases hdirectory

theorem ensureDirectory_of_follow_eq_error {error : FileError}
    (h : tree.follow (tree.origin absolute) around = .error error) :
    tree.ensureDirectory ⟨absolute, around ++ [step], false⟩ =
      (.error error, tree) := by
  apply ensureDirectory_of_target
  · rw [target_concat, h]
    rfl
  · intro parent hparent
    cases h.symm.trans hparent

theorem ensureDirectory_of_not_directory
    (h : tree.follow (tree.origin absolute) around = .ok parent)
    (hparent : tree.isDirectoryAt parent = false) :
    tree.ensureDirectory ⟨absolute, around ++ [step], false⟩ =
      (.error .notADirectory, tree) := by
  apply ensureDirectory_of_target
  · rw [target_concat, h]
    dsimp only [bind, Except.bind]
    rw [hparent]
    rfl
  · intro next hnext
    cases h.symm.trans hnext
    exact hparent

/-- One step further from directories: what it leads to is a directory
afterwards, unless it is a file. -/
theorem Unrestricted.ensureDirectory_cases (h : tree.Unrestricted)
    (step : PathStep)
    (hway : ∀ place ∈ Path.passed (tree.origin absolute) around,
      tree.isDirectoryAt place = true) :
    (∃ made,
      tree.ensureDirectory ⟨absolute, around ++ [step], false⟩ =
          (.ok (), made) ∧
        MakesWay (Path.passed (tree.origin absolute) (around ++ [step]))
          tree made) ∨
    tree.ensureDirectory ⟨absolute, around ++ [step], false⟩ =
        (.error .alreadyExists, tree) ∧
      tree.HasFileAt (Path.lead (tree.origin absolute) (around ++ [step])) := by
  have hparent := hway _ (Path.lead_mem_passed _ around)
  cases hlast : tree.isDirectoryAt
      (Path.lead (tree.origin absolute) (around ++ [step])) with
  | true =>
      have hall : ∀ place ∈
          Path.passed (tree.origin absolute) (around ++ [step]),
          tree.isDirectoryAt place = true := by
        intro place hplace
        rcases Path.mem_passed_concat.1 hplace with hplace | rfl
        · exact hway place hplace
        · exact hlast
      exact .inl ⟨tree, ensureDirectory_of_follow
        ⟨absolute, around ++ [step], false⟩ (by simp) rfl
        (follow_of_directories hall) hlast, .refl h hall⟩
  | false =>
      cases step with
      | here =>
          rw [Path.lead_append] at hlast
          exact absurd (hparent.symm.trans hlast) (by decide)
      | up =>
          rw [Path.lead_append] at hlast
          exact absurd ((h.grounded.isDirectoryAt_dropLast hparent).symm.trans
            hlast) (by decide)
      | name name =>
          have hlead := Path.lead_concat_name (tree.origin absolute) around name
          have htarget : tree.target .alreadyExists
              ⟨absolute, around ++ [.name name], false⟩ =
                .ok (Path.lead (tree.origin absolute) around, name) :=
            target_eq_ok_of_directories rfl hway
          cases hnode : tree.node?
              (Path.lead (tree.origin absolute) around ++ [name]) with
          | none =>
              refine .inl ⟨_, ?_, .set h hparent hnode
                (hlead ▸ Path.lead_mem_passed _ _) ?_⟩
              · rw [ensureDirectory,
                  makeDirectory_of_none htarget hnode (h.permits hparent)]
              · intro place hplace
                rw [← hlead]
                exact (Path.mem_passed_concat.1 hplace).imp (hway place) id
          | some node =>
              have hstands := Option.isSome_of_eq_some hnode
              refine .inr ⟨ensureDirectory_of_not_isDirectory
                (makeDirectory_of_stands htarget hstands) ?_,
                hasFileAt_of_stands (hlead ▸ hstands) hlast⟩
              intro place hplace
              rw [lead_of_follow hplace]
              exact hlast

/-! All directories on a way. -/

/-- A way passes only directories, or something is missing on it, or a file is
in the way of all that might be made behind it. -/
theorem Unrestricted.way_cases (h : tree.Unrestricted) (absolute : Bool)
    (around : List PathStep) :
    (∀ place ∈ Path.passed (tree.origin absolute) around,
      tree.isDirectoryAt place = true) ∨
    tree.follow (tree.origin absolute) around = .error .notFound ∨
    (∃ error, error ≠ .notFound ∧ ∀ step,
      tree.ensureDirectory ⟨absolute, around ++ [step], false⟩ =
        (.error error, tree)) ∧
      ∃ place ∈ Path.passed (tree.origin absolute) around,
        tree.HasFileAt place := by
  have horigin := isSome_of_isDirectoryAt (h.isDirectoryAt_origin absolute)
  cases hfollow : tree.follow (tree.origin absolute) around with
  | ok parent =>
      cases hparent : tree.isDirectoryAt parent with
      | true => exact .inl (directories_of_follow hfollow hparent)
      | false =>
          refine .inr (.inr ⟨⟨.notADirectory, by decide, fun step =>
            ensureDirectory_of_not_directory hfollow hparent⟩, parent, ?_,
            hasFileAt_of_stands (h.grounded.isSome_of_follow horigin hfollow)
              hparent⟩)
          rw [lead_of_follow hfollow]
          exact Path.lead_mem_passed _ _
  | error error =>
      by_cases herror : error = .notFound
      · exact .inr (.inl (congrArg Except.error herror))
      · exact .inr (.inr ⟨⟨error, herror, fun step =>
          ensureDirectory_of_follow_eq_error hfollow⟩,
          h.grounded.exists_file_of_follow horigin hfollow herror⟩)

/-- The directories on a way are made, or a file is on it. -/
theorem Unrestricted.makeDirectories_cases (h : tree.Unrestricted)
    (absolute : Bool) (steps : List PathStep) :
    (∃ made, tree.makeDirectories absolute steps = (.ok (), made) ∧
      MakesWay (Path.passed (tree.origin absolute) steps.reverse) tree made) ∨
    (∃ error, (tree.makeDirectories absolute steps).1 = .error error) ∧
      ∃ place ∈ Path.passed (tree.origin absolute) steps.reverse,
        tree.HasFileAt place := by
  -- The induction is on the steps that are left when the last one is missing.
  induction steps with
  | nil =>
      refine .inl ⟨tree, rfl, .refl h ?_⟩
      intro place hplace
      rw [List.mem_singleton.1 hplace]
      exact h.isDirectoryAt_origin absolute
  | cons step rest ih =>
      rw [makeDirectories, List.reverse_cons]
      have hbefore : ∀ place ∈ Path.passed (tree.origin absolute) rest.reverse,
          place ∈ Path.passed (tree.origin absolute) (rest.reverse ++ [step]) :=
        fun place hplace => Path.mem_passed_concat.2 (.inl hplace)
      rcases h.way_cases absolute rest.reverse with
        hway | hmissing | ⟨⟨error, herror, hensure⟩, place, hplace, hfile⟩
      · rcases h.ensureDirectory_cases step hway with
          ⟨made, hensure, hmade⟩ | ⟨hensure, hfile⟩
        · exact .inl ⟨made, by rw [hensure], hmade⟩
        · exact .inr ⟨⟨_, by rw [hensure]⟩, _, Path.lead_mem_passed _ _, hfile⟩
      · rw [ensureDirectory_of_follow_eq_error hmissing]
        dsimp only
        rcases ih with
          ⟨made, hmake, hmade⟩ | ⟨⟨error, hmake⟩, place, hplace, hfile⟩
        · -- What was missing is there now, so the last step is the first case.
          rw [hmake]
          dsimp only
          have horigin := hmade.origin_eq absolute
          rcases hmade.unrestricted.ensureDirectory_cases step
              (horigin ▸ hmade.directories) with
            ⟨last, hensure, hlast⟩ | ⟨hensure, hfile⟩
          · rw [horigin] at hlast
            exact .inl ⟨last, hensure, hmade.trans hlast hbefore⟩
          · rw [horigin] at hfile
            exact .inr ⟨⟨_, by rw [hensure]⟩, _, Path.lead_mem_passed _ _,
              hmade.hasFileAt hfile⟩
        · refine .inr ⟨⟨error, ?_⟩, place, hbefore place hplace, hfile⟩
          generalize tree.makeDirectories absolute rest = result at hmake ⊢
          obtain ⟨result, made⟩ := result
          cases hmake
          rfl
      · refine .inr ⟨⟨error, ?_⟩, place, hbefore place hplace, hfile⟩
        rw [hensure step]
        cases error <;> first | rfl | exact absurd rfl herror

theorem makeParents_eq {path : Path} {name : String}
    (h : path.steps = around ++ [.name name]) :
    tree.makeParents path = tree.makeDirectories path.absolute
      (⟨path.absolute, around, false⟩ : Path).countedSteps.reverse := by
  rw [makeParents, Path.parent?, Path.ancestors, List.head?_map,
    Path.head?_properPrefixes, Path.countedSteps_concat h, if_neg (by simp),
    Option.map_some, List.dropLast_concat]

/-- The directories around a file are made, or a file is among them. -/
theorem Unrestricted.makeParents_cases (h : tree.Unrestricted) {path : Path}
    {name : String} (hsteps : path.steps = around ++ [.name name]) :
    (∃ made, tree.makeParents path = (.ok (), made) ∧
      MakesWay (Path.passed (tree.origin path.absolute) around) tree made) ∨
    (∃ error, (tree.makeParents path).1 = .error error) ∧
      ∃ place ∈ Path.passed (tree.origin path.absolute) around,
        tree.HasFileAt place := by
  have hpassed : ∀ place, place ∈ Path.passed (tree.origin path.absolute)
      (⟨path.absolute, around, false⟩ : Path).countedSteps ↔
        place ∈ Path.passed (tree.origin path.absolute) around :=
    fun place => Path.mem_passed_countedSteps _
  rw [makeParents_eq hsteps]
  rcases h.makeDirectories_cases path.absolute
      (⟨path.absolute, around, false⟩ : Path).countedSteps.reverse with
    ⟨made, hmake, hmade⟩ | ⟨herror, place, hplace, hfile⟩
  · rw [List.reverse_reverse] at hmade
    exact .inl ⟨made, hmake, hmade.unrestricted, hmade.workingDirectory,
      fun place hplace => hmade.directories place ((hpassed place).2 hplace),
      hmade.kept,
      fun place hplace => hmade.others place (mt (hpassed place).1 hplace)⟩
  · rw [List.reverse_reverse, hpassed] at hplace
    exact .inr ⟨herror, place, hplace, hfile⟩

/-! The file itself. -/

/-- Nothing blocks the file that a path leads to: no file is in the way, and
where it leads there is no directory and none is passed on the way. -/
structure Unblocked (tree : FileTree) (path : Path) : Prop where
  way : ∀ place ∈ Path.passed (tree.origin path.absolute) path.steps.dropLast,
    ¬tree.HasFileAt place
  last : tree.isDirectoryAt
    (Path.lead (tree.origin path.absolute) path.steps) = false
  fresh : Path.lead (tree.origin path.absolute) path.steps ∉
    Path.passed (tree.origin path.absolute) path.steps.dropLast

theorem openForWriting_isOk_iff {path : Path} :
    (∃ place, (tree.openForWriting path).1 = .ok place) ↔
      ∃ made opened, tree.makeParents path = (.ok (), made) ∧
        made.truncate path = .ok opened := by
  constructor
  · rintro ⟨place, h⟩
    obtain ⟨made, hmade, htruncate⟩ :=
      exists_of_openForWriting (Prod.ext_iff.2 ⟨h, rfl⟩)
    exact ⟨made, _, hmade, htruncate⟩
  · rintro ⟨made, ⟨place, after⟩, hmade, htruncate⟩
    rw [openForWriting, hmade]
    dsimp only
    rw [htruncate]
    exact ⟨place, rfl⟩

/-- Where nothing is read-only, a file is refused only by a directory in its
place or a slash at the end. -/
theorem Unrestricted.exists_truncate (h : tree.Unrestricted) {path : Path}
    {name : String} (hslash : path.asDirectory = false)
    (htarget : tree.target .isADirectory path = .ok (parent, name))
    (hlast : tree.isDirectoryAt (parent ++ [name]) = false) :
    ∃ opened, tree.truncate path = .ok opened := by
  obtain ⟨-, around, -, -, hparent⟩ := exists_of_target htarget
  rw [truncate, htarget]
  dsimp only [bind, Except.bind]
  rw [hslash, if_neg (by decide)]
  cases hnode : tree.node? (parent ++ [name]) with
  | none =>
      rw [h.permits hparent]
      exact ⟨_, rfl⟩
  | some node =>
      cases node with
      | directory access =>
          rw [isDirectoryAt, hnode] at hlast
          cases hlast
      | file content access =>
          have hwritable : access.write = true := h.writable _ _ hnode
          dsimp only
          rw [hwritable]
          exact ⟨_, rfl⟩

/-- A file can be opened for writing exactly if its path ends in a name and
nothing blocks it. -/
theorem Unrestricted.openForWriting_isOk_iff_unblocked (h : tree.Unrestricted)
    (path : Path) :
    (∃ place, (tree.openForWriting path).1 = .ok place) ↔
      path.EndsInName ∧ tree.Unblocked path := by
  rw [openForWriting_isOk_iff]
  constructor
  · rintro ⟨made, ⟨place, after⟩, hmake, htruncate⟩
    obtain ⟨parent, name, htarget, rfl, -, hlast, hslash⟩ :=
      exists_of_truncate htruncate
    obtain ⟨-, around, hsteps, hfollow, -⟩ := exists_of_target htarget
    have haround : path.steps.dropLast = around := by
      rw [hsteps, List.dropLast_concat]
    rcases h.makeParents_cases hsteps with
      ⟨made', hmake', hmade⟩ | ⟨⟨error, herror⟩, -⟩
    · cases hmake.symm.trans hmake'
      rw [lead_of_follow hfollow, hmade.origin_eq, ← Path.lead_concat_name,
        ← hsteps, ← Bool.not_eq_true] at hlast
      rw [← haround] at hmade
      exact ⟨⟨hslash, name, by rw [hsteps, List.getLast?_concat]⟩,
        fun place hplace => hmade.not_hasFileAt hplace,
        by simpa using mt hmade.isDirectoryAt hlast,
        fun hmem => hlast (hmade.directories _ hmem)⟩
    · rw [hmake] at herror
      cases herror
  · rintro ⟨hname, hfree⟩
    obtain ⟨name, hsteps⟩ := hname.exists_steps
    rcases h.makeParents_cases hsteps with
      ⟨made, hmake, hmade⟩ | ⟨-, place, hplace, hfile⟩
    · have horigin := hmade.origin_eq path.absolute
      have hlast := hfree.last
      rw [isDirectoryAt, ← hmade.others _ hfree.fresh, hsteps,
        Path.lead_concat_name, ← horigin] at hlast
      obtain ⟨opened, htruncate⟩ := hmade.unrestricted.exists_truncate hname.1
        (target_eq_ok_of_directories hsteps (horigin ▸ hmade.directories))
        hlast
      exact ⟨made, opened, hmake, htruncate⟩
    · exact absurd hfile (hfree.way place hplace)

end FileTree
end RegionSnapshot
