/-
Which files are taken to be writable.  For a file that is missing this is
decided by what stands nearest on the way to it.  So all files that can be
opened for writing are writable; but some that are writable cannot be opened,
where the path does not end in a name, and where it goes back up from
directories that are only to be made.
-/
import RegionSnapshot.Proofs.Files.Opening
import RegionSnapshot.Resource.Basic

namespace RegionSnapshot
namespace FileTree

variable {tree : FileTree} {place : Place}

/-- The node that steps lead to. -/
def nodeBehind? (tree : FileTree) (place : Place) (steps : List PathStep) :
    Option FileNode :=
  match tree.follow place steps with
  | .ok last => tree.node? last
  | .error _ => none

theorem nodeBehind?_eq_some_iff {steps : List PathStep} {node : FileNode} :
    tree.nodeBehind? place steps = some node ↔
      tree.follow place steps = .ok (Path.lead place steps) ∧
        tree.node? (Path.lead place steps) = some node := by
  rw [nodeBehind?]
  cases hfollow : tree.follow place steps with
  | error error => simp
  | ok last => simp [lead_of_follow hfollow]

/-- The node that is nearest to the end of steps, on the way that they can be
followed. -/
def nearest? (tree : FileTree) (place : Place) : List PathStep → Option FileNode
  | [] => none
  | step :: rest =>
      match tree.follow place [step] with
      | .ok next => (nearest? tree next rest).or (tree.node? place)
      | .error _ => tree.node? place

theorem nodeBehind?_cons (tree : FileTree) (place : Place) (step : PathStep)
    (rest : List PathStep) :
    tree.nodeBehind? place (step :: rest) =
      match tree.follow place [step] with
      | .ok next => tree.nodeBehind? next rest
      | .error _ => none := by
  rw [nodeBehind?, follow_cons]
  cases tree.follow place [step] <;> rfl

theorem findSome?_properPrefixes (tree : FileTree) (place : Place)
    (steps : List PathStep) :
    (Path.properPrefixes steps).findSome? (tree.nodeBehind? place) =
      tree.nearest? place steps := by
  induction steps generalizing place with
  | nil => rfl
  | cons step rest ih =>
      have hcons : tree.nodeBehind? place ∘ (step :: ·) = fun steps =>
          match tree.follow place [step] with
          | .ok next => tree.nodeBehind? next steps
          | .error _ => none :=
        funext (nodeBehind?_cons tree place step)
      have hstart : [[]].findSome? (tree.nodeBehind? place) =
          tree.node? place := by
        rw [List.findSome?_singleton]
        rfl
      rw [Path.properPrefixes, List.findSome?_append, List.findSome?_map, hcons,
        hstart, nearest?]
      cases tree.follow place [step] with
      | error error =>
          have hnone : (Path.properPrefixes rest).findSome?
              (fun _ => (none : Option FileNode)) = none :=
            List.findSome?_eq_none_iff.2 fun _ _ => rfl
          dsimp only
          rw [hnone, Option.none_or]
      | ok next =>
          dsimp only
          rw [← ih]

/-- What a path leads to that asks for no directory. -/
theorem find?_eq_nodeBehind? {absolute : Bool} {steps : List PathStep}
    (h : (⟨absolute, steps, false⟩ : Path).isEmpty = false) :
    tree.find? ⟨absolute, steps, false⟩ =
      tree.nodeBehind? (tree.origin absolute) steps := by
  rw [find?, locate_eq h, nodeBehind?]
  cases tree.follow (tree.origin absolute) steps with
  | error error => rfl
  | ok last =>
      dsimp only [bind, Except.bind]
      cases tree.node? last <;> rfl

/-- The node that a path with a name at its end leads to. -/
theorem find?_of_endsInName {path : Path} (hname : path.EndsInName) :
    tree.find? path =
      tree.nodeBehind? (tree.origin path.absolute) path.steps := by
  obtain ⟨absolute, steps, slash⟩ := path
  obtain ⟨rfl, name, hlast⟩ := hname
  apply find?_eq_nodeBehind?
  cases steps with
  | nil => cases hlast
  | cons step rest => simp [Path.isEmpty]

/-- The nearest ancestor is the nearest node of the steps that count. -/
theorem Unrestricted.nearestAncestor?_eq (h : tree.Unrestricted) (path : Path) :
    tree.nearestAncestor? path =
      tree.nearest? (tree.origin path.absolute) path.countedSteps := by
  rw [nearestAncestor?, Path.ancestors, List.findSome?_map,
    ← findSome?_properPrefixes]
  congr 1
  funext steps
  dsimp only [Function.comp]
  cases hempty : (⟨path.absolute, steps, false⟩ : Path).isEmpty with
  | false => exact find?_eq_nodeBehind? hempty
  | true =>
      obtain ⟨habsolute, hsteps⟩ : path.absolute = false ∧ steps = [] := by
        simpa [Path.isEmpty] using hempty
      have hstep : tree.follow tree.workingDirectory [.here] =
          .ok tree.workingDirectory :=
        follow_step_of_stands h.workingDirectory
          (isSome_of_isDirectoryAt h.workingDirectory)
      have hhere : tree.nodeBehind? tree.workingDirectory [.here] =
          tree.node? tree.workingDirectory := by
        rw [nodeBehind?, hstep]
      rw [if_pos rfl, find?_eq_nodeBehind? rfl, habsolute, hsteps]
      exact hhere

/-- From where something stands, the nearest node stands at a place that all
steps but the last pass. -/
theorem Grounded.exists_nearest (hgrounded : tree.Grounded)
    {steps : List PathStep} (hsteps : steps ≠ [])
    (hplace : (tree.node? place).isSome = true) :
    ∃ other ∈ Path.passed place steps.dropLast,
      (tree.node? other).isSome = true ∧
        tree.nearest? place steps = tree.node? other := by
  induction steps generalizing place with
  | nil => exact absurd rfl hsteps
  | cons step rest ih =>
      rw [nearest?]
      cases hfollow : tree.follow place [step] with
      | error error => exact ⟨place, Path.start_mem_passed place _, hplace, rfl⟩
      | ok next =>
          cases rest with
          | nil => exact ⟨place, Path.start_mem_passed place _, hplace, rfl⟩
          | cons second rest =>
              obtain ⟨other, hother, hstands, hnearest⟩ :=
                ih (by simp) (hgrounded.isSome_of_follow_step hfollow)
              refine ⟨other, ?_, hstands, ?_⟩
              · rw [List.dropLast_cons_cons, Path.mem_passed_cons,
                  ← (follow_step_eq_ok hfollow).2]
                exact .inr hother
              · dsimp only
                rw [hnearest, Option.or_of_isSome hstands]

/-- On the way down to below a nearest node that is a directory there are no
files. -/
theorem Grounded.not_hasFileAt_of_nearest (hgrounded : tree.Grounded)
    {steps : List PathStep} {access : Access} (hdown : .up ∉ steps)
    (hplace : (tree.node? place).isSome = true)
    (h : tree.nearest? place steps = some (.directory access)) :
    ∀ other ∈ Path.passed place steps.dropLast, ¬tree.HasFileAt other := by
  induction steps generalizing place with
  | nil => cases h
  | cons step rest ih =>
      rw [List.mem_cons, not_or] at hdown
      have hdirectory : tree.isDirectoryAt place = true := by
        cases hcase : tree.isDirectoryAt place with
        | true => rfl
        | false =>
            have hfollow : tree.follow place [step] = .error .notADirectory := by
              simp [follow, hcase]
            rw [nearest?, hfollow] at h
            exact hcase.symm.trans (isDirectoryAt_iff.2 ⟨access, h⟩)
      cases rest with
      | nil =>
          intro other hother
          rw [List.mem_singleton.1 hother]
          exact not_hasFileAt_of_isDirectoryAt hdirectory
      | cons second rest =>
          intro other hother
          rw [List.dropLast_cons_cons] at hother
          rcases Path.mem_passed_cons.1 hother with rfl | hother
          · exact not_hasFileAt_of_isDirectoryAt hdirectory
          · rw [nearest?] at h
            cases hfollow : tree.follow place [step] with
            | error error =>
                obtain ⟨-, name, rfl, hnone⟩ :=
                  (follow_step_eq_error hfollow).resolve_left (by simp [hdirectory])
                have hnothing := hgrounded.none_of_passed
                  (fun hup => hdown.2 (List.dropLast_subset _ hup)) hnone other
                  hother
                rintro ⟨content, access, hnode⟩
                rw [hnothing] at hnode
                cases hnode
            | ok next =>
                have hnext := hgrounded.isSome_of_follow_step hfollow
                obtain ⟨nearest, -, hstands, hnearest⟩ :=
                  hgrounded.exists_nearest (List.cons_ne_nil second rest) hnext
                rw [hfollow] at h
                dsimp only at h
                rw [hnearest, Option.or_of_isSome hstands, ← hnearest] at h
                rw [← (follow_step_eq_ok hfollow).2] at hother
                exact ih hdown.2 hnext h other hother

namespace Unrestricted

variable {path : Path}

/-- Where nothing is read-only, files are writable, and missing ones whose
nearest node is a directory. -/
theorem isWritable_iff (h : tree.Unrestricted) :
    tree.isWritable path = true ↔
      (∃ content access, tree.find? path = some (.file content access)) ∨
      tree.find? path = none ∧ ∃ access,
        tree.nearest? (tree.origin path.absolute) path.countedSteps =
          some (.directory access) := by
  rw [FileTree.isWritable, h.nearestAncestor?_eq]
  cases hfind : tree.find? path with
  | some node =>
      have hwritable : node.access.write = true := by
        rw [find?] at hfind
        split at hfind
        · rename_i place found hlocate
          cases hfind
          exact h.writable place _ (locate_eq_ok_iff.1 hlocate).2.2.1
        · cases hfind
      cases node with
      | directory access => simp [FileNode.isFile]
      | file content access => simp [FileNode.isFile, hwritable]
  | none =>
      cases hnearest :
          tree.nearest? (tree.origin path.absolute) path.countedSteps with
      | none => simp
      | some node =>
          have hwritable : node.access.write = true := by
            have hcounted : path.countedSteps ≠ [] := by
              intro hnil
              rw [hnil] at hnearest
              cases hnearest
            obtain ⟨other, -, -, hother⟩ := h.grounded.exists_nearest hcounted
              (isSome_of_isDirectoryAt (h.isDirectoryAt_origin path.absolute))
            exact h.writable other node (hother.symm.trans hnearest)
          cases node with
          | file content access => simp [FileNode.isDirectory]
          | directory access => simp [FileNode.isDirectory, hwritable]

/-- A file that nothing blocks is writable. -/
theorem isWritable_of_unblocked (h : tree.Unrestricted)
    (hname : path.EndsInName) (hfree : tree.Unblocked path) :
    tree.isWritable path = true := by
  rw [h.isWritable_iff, find?_of_endsInName hname]
  cases hnode : tree.nodeBehind? (tree.origin path.absolute) path.steps with
  | some node =>
      have hlast := (nodeBehind?_eq_some_iff.1 hnode).2
      cases node with
      | file content access => exact .inl ⟨content, access, rfl⟩
      | directory access =>
          have hdirectory := isDirectoryAt_iff.2 ⟨access, hlast⟩
          rw [hfree.last] at hdirectory
          cases hdirectory
  | none =>
      obtain ⟨name, hsteps⟩ := hname.exists_steps
      have hcounted := Path.countedSteps_concat hsteps
      have hne : path.countedSteps ≠ [] := by simp [hcounted]
      obtain ⟨other, hother, hstands, hnearest⟩ := h.grounded.exists_nearest hne
        (isSome_of_isDirectoryAt (h.isDirectoryAt_origin path.absolute))
      rw [hcounted, List.dropLast_concat, Path.mem_passed_countedSteps] at hother
      have hdirectory : tree.isDirectoryAt other = true := by
        rw [← Bool.not_eq_false]
        exact fun hnot => hfree.way other hother (hasFileAt_of_stands hstands hnot)
      obtain ⟨access, hnode⟩ := isDirectoryAt_iff.1 hdirectory
      exact .inr ⟨rfl, access, hnearest.trans hnode⟩

/-- Nothing blocks a writable file on a way down. -/
theorem unblocked_of_isWritable (h : tree.Unrestricted)
    (hname : path.EndsInName) (hdown : .up ∉ path.steps)
    (hwritable : tree.isWritable path = true) : tree.Unblocked path := by
  obtain ⟨name, hsteps⟩ := hname.exists_steps
  have hfresh : Path.lead (tree.origin path.absolute) path.steps ∉
      Path.passed (tree.origin path.absolute) path.steps.dropLast := by
    intro hmem
    have hlength := Path.length_le_of_mem_passed
      (fun hup => hdown (List.dropLast_subset _ hup)) hmem
    rw [hsteps, Path.lead_concat_name, List.dropLast_concat,
      List.length_append] at hlength
    exact absurd hlength (by simp)
  rw [h.isWritable_iff, find?_of_endsInName hname] at hwritable
  rcases hwritable with ⟨content, access, hfile⟩ | ⟨hnone, access, hnearest⟩
  · obtain ⟨hfollow, hnode⟩ := nodeBehind?_eq_some_iff.1 hfile
    refine ⟨?_, HasFileAt.not_isDirectoryAt ⟨content, access, hnode⟩, hfresh⟩
    rw [hsteps] at hfollow
    obtain ⟨next, hnext, hdirectory, -⟩ := follow_concat_eq_ok hfollow
    exact fun place hplace => not_hasFileAt_of_isDirectoryAt
      (directories_of_follow hnext hdirectory place hplace)
  · refine ⟨?_, ?_, hfresh⟩
    · have hway := h.grounded.not_hasFileAt_of_nearest
        (mt (Path.up_mem_countedSteps_iff path).1 hdown)
        (isSome_of_isDirectoryAt (h.isDirectoryAt_origin path.absolute)) hnearest
      rw [Path.countedSteps_concat hsteps, List.dropLast_concat] at hway
      exact fun place hplace =>
        hway place ((Path.mem_passed_countedSteps _).2 hplace)
    · rw [← Bool.not_eq_true]
      intro hdirectory
      have hfollow := follow_of_directories
        (h.grounded.directories_of_lead hdown hdirectory)
      obtain ⟨access, hnode⟩ := isDirectoryAt_iff.1 hdirectory
      rw [nodeBehind?_eq_some_iff.2 ⟨hfollow, hnode⟩] at hnone
      cases hnone

end Unrestricted
end FileTree

namespace Resource

variable {tree : FileTree}

theorem openWrite_isOk_iff (tree : FileTree) (location text : String) :
    (∃ place, ((Resource.file location text).openWrite tree).1 = .ok place) ↔
      ∃ place, (tree.openForWriting (.ofText text)).1 = .ok place := by
  rw [openWrite]
  rcases tree.openForWriting (.ofText text) with ⟨result, made⟩
  cases result <;> simp

/-- A file that can be opened is writable, and a writable one can be opened if
its path ends in a name and nothing blocks it; on a way down nothing does. -/
theorem openWrite_isOk_iff_isWritable (h : tree.Unrestricted)
    (location text : String) :
    ((∃ place, ((Resource.file location text).openWrite tree).1 = .ok place) ↔
      (Resource.file location text).isWritable tree = true ∧
        (Path.ofText text).EndsInName ∧ tree.Unblocked (.ofText text)) ∧
    (.up ∉ (Path.ofText text).steps →
      ((∃ place, ((Resource.file location text).openWrite tree).1 = .ok place) ↔
        (Resource.file location text).isWritable tree = true ∧
          (Path.ofText text).EndsInName)) := by
  rw [openWrite_isOk_iff, h.openForWriting_isOk_iff_unblocked, isWritable]
  constructor
  · constructor
    · rintro ⟨hname, hfree⟩
      exact ⟨h.isWritable_of_unblocked hname hfree, hname, hfree⟩
    · rintro ⟨-, hname, hfree⟩
      exact ⟨hname, hfree⟩
  · intro hdown
    constructor
    · rintro ⟨hname, hfree⟩
      exact ⟨h.isWritable_of_unblocked hname hfree, hname⟩
    · rintro ⟨hwritable, hname⟩
      exact ⟨hname, h.unblocked_of_isWritable hname hdown hwritable⟩

/-- A working directory with a file in it. -/
def yardTree : FileTree :=
  (FileTree.bare ["yard"]).plant ["yard", "shed"] (.file [] .full)

/-- Directories are made down to a file, but not below another file; with a
slash at the end or on a way back up what is writable cannot be opened. -/
theorem openWrite_isOk_iff_isWritable_yard :
    yardTree.Unrestricted ∧
    (∃ place, ((Resource.file "" "new/deep/notes").openWrite yardTree).1 =
      .ok place) ∧
    ((Resource.file "" "shed/notes").isWritable yardTree = false ∧
      ¬∃ place, ((Resource.file "" "shed/notes").openWrite yardTree).1 =
        .ok place) ∧
    ((Resource.file "" "shed/").isWritable yardTree = true ∧
      ¬∃ place, ((Resource.file "" "shed/").openWrite yardTree).1 = .ok place) ∧
    (Resource.file "" "new/../shed/notes").isWritable yardTree = true ∧
      ¬∃ place, ((Resource.file "" "new/../shed/notes").openWrite yardTree).1 =
        .ok place := by
  have hyard : yardTree.Unrestricted :=
    FileTree.unrestricted_of_nodes (by decide) (by decide)
  refine ⟨hyard, ?_, ⟨by rfl, ?_⟩, ⟨by rfl, ?_⟩, by rfl, ?_⟩
  · have hpath : Path.ofText "new/deep/notes" =
        ⟨false, [.name "new", .name "deep", .name "notes"], false⟩ := by rfl
    refine ((openWrite_isOk_iff_isWritable hyard "" _).2 (by simp [hpath])).2
      ⟨by rfl, ?_⟩
    rw [hpath]
    exact ⟨rfl, "notes", rfl⟩
  · intro hopen
    obtain ⟨hwritable, -⟩ := (openWrite_isOk_iff_isWritable hyard "" _).1.1 hopen
    exact absurd hwritable (by decide)
  · intro hopen
    obtain ⟨-, hname, -⟩ := (openWrite_isOk_iff_isWritable hyard "" _).1.1 hopen
    exact absurd hname.1 (by decide)
  · intro hopen
    obtain ⟨-, -, hfree⟩ := (openWrite_isOk_iff_isWritable hyard "" _).1.1 hopen
    have hpath : Path.ofText "new/../shed/notes" =
        ⟨false, [.name "new", .up, .name "shed", .name "notes"], false⟩ := by rfl
    rw [hpath] at hfree
    exact hfree.way ["yard", "shed"] (by decide) ⟨[], .full, rfl⟩

end Resource
end RegionSnapshot
