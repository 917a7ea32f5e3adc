/-
Ways through a tree.  The steps of a path pass places and lead to one, whether
or not anything stands there.  Where directories stand at all places on the way
the path can be followed to its end; where it fails, nothing stands at some
place, or a file is in the way.
-/
import RegionSnapshot.Proofs.Files.Making

namespace RegionSnapshot

namespace Path

/-- The place that steps lead to, if they can be taken. -/
def lead (place : Place) : List PathStep → Place
  | [] => place
  | .here :: rest => lead place rest
  | .up :: rest => lead place.dropLast rest
  | .name name :: rest => lead (place ++ [name]) rest

/-- The last step of the path is a name, and the path asks for no directory. -/
def EndsInName (path : Path) : Prop :=
  path.asDirectory = false ∧ ∃ name, path.steps.getLast? = some (.name name)

theorem EndsInName.exists_steps {path : Path} (h : path.EndsInName) :
    ∃ name, path.steps = path.steps.dropLast ++ [.name name] := by
  obtain ⟨-, name, hname⟩ := h
  obtain ⟨steps, hsteps⟩ := List.getLast?_eq_some_iff.1 hname
  exact ⟨name, by rw [hsteps, List.dropLast_concat]⟩

section Steps

variable {place other : Place}

theorem lead_cons (place : Place) (step : PathStep) (rest : List PathStep) :
    lead place (step :: rest) = lead (lead place [step]) rest := by
  cases step <;> rfl

theorem lead_append (place : Place) (first second : List PathStep) :
    lead place (first ++ second) = lead (lead place first) second := by
  induction first generalizing place with
  | nil => rfl
  | cons step rest ih =>
      rw [List.cons_append, lead_cons, ih, ← lead_cons]

theorem lead_concat_name (place : Place) (around : List PathStep)
    (name : String) :
    lead place (around ++ [.name name]) = lead place around ++ [name] := by
  rw [lead_append]
  rfl

theorem start_mem_passed (place : Place) (steps : List PathStep) :
    place ∈ passed place steps := by
  induction steps with
  | nil => exact List.mem_singleton_self place
  | cons step rest ih =>
      cases step with
      | here => exact ih
      | up => exact List.mem_append_right _ (List.mem_singleton_self place)
      | name name => exact List.mem_append_right _ (List.mem_singleton_self place)

theorem mem_passed_cons {step : PathStep} {rest : List PathStep} :
    other ∈ passed place (step :: rest) ↔
      other = place ∨ other ∈ passed (lead place [step]) rest := by
  cases step with
  | here =>
      constructor
      · exact .inr
      · rintro (rfl | hother)
        · exact start_mem_passed other rest
        · exact hother
  | up => rw [passed, List.mem_append, List.mem_singleton, or_comm]; rfl
  | name name => rw [passed, List.mem_append, List.mem_singleton, or_comm]; rfl

/-- Steps pass what their first part passes, and then what the second part
does. -/
theorem mem_passed_append {first second : List PathStep} :
    other ∈ passed place (first ++ second) ↔
      other ∈ passed place first ∨ other ∈ passed (lead place first) second := by
  induction first generalizing place with
  | nil =>
      rw [List.nil_append, passed, List.mem_singleton, lead]
      constructor
      · exact .inr
      · rintro (rfl | hother)
        · exact start_mem_passed other second
        · exact hother
  | cons step rest ih =>
      rw [List.cons_append, mem_passed_cons, mem_passed_cons, ih, or_assoc,
        ← lead_cons]

theorem lead_mem_passed (place : Place) (steps : List PathStep) :
    lead place steps ∈ passed place steps := by
  induction steps generalizing place with
  | nil => exact List.mem_singleton_self place
  | cons step rest ih =>
      rw [lead_cons]
      exact mem_passed_cons.2 (.inr (ih _))

/-- One step more passes the place that it leads to. -/
theorem mem_passed_concat {steps : List PathStep} {step : PathStep} :
    other ∈ passed place (steps ++ [step]) ↔
      other ∈ passed place steps ∨ other = lead place (steps ++ [step]) := by
  rw [mem_passed_append, mem_passed_cons, passed, List.mem_singleton,
    ← lead_append]
  constructor
  · rintro (hother | rfl | hother)
    · exact .inl hother
    · exact .inl (lead_mem_passed place steps)
    · exact .inr hother
  · rintro (hother | hother)
    · exact .inl hother
    · exact .inr (.inr hother)

/-! Steps to nowhere pass no other places, so it is the same for the steps that
count. -/

theorem mem_passed_filter {steps : List PathStep} :
    other ∈ passed place (steps.filter (· ≠ .here)) ↔
      other ∈ passed place steps := by
  induction steps generalizing place with
  | nil => rfl
  | cons step rest ih =>
      by_cases hstep : step = .here
      · rw [hstep, List.filter_cons_of_neg (by decide), ih]
        rfl
      · rw [List.filter_cons_of_pos (by simpa using hstep), mem_passed_cons,
          mem_passed_cons, ih]

theorem countedSteps_cases (path : Path) :
    path.countedSteps = path.steps.filter (· ≠ .here) ∨
      path.countedSteps = .here :: path.steps.filter (· ≠ .here) := by
  obtain ⟨absolute, steps, asDirectory⟩ := path
  rw [countedSteps]
  split
  · rename_i hsteps
    rw [hsteps, List.filter_cons_of_neg (by decide)]
    exact .inr rfl
  · exact .inl rfl

theorem mem_passed_countedSteps (path : Path) :
    other ∈ passed place path.countedSteps ↔
      other ∈ passed place path.steps := by
  rcases path.countedSteps_cases with hcounted | hcounted
  · rw [hcounted, mem_passed_filter]
  · rw [hcounted, passed, mem_passed_filter]

theorem up_mem_countedSteps_iff (path : Path) :
    .up ∈ path.countedSteps ↔ .up ∈ path.steps := by
  rcases path.countedSteps_cases with hcounted | hcounted
  · simp [hcounted]
  · simp [hcounted]

/-- A name at the end counts. -/
theorem countedSteps_concat {path : Path} {around : List PathStep}
    {name : String} (h : path.steps = around ++ [.name name]) :
    path.countedSteps =
      (⟨path.absolute, around, false⟩ : Path).countedSteps ++ [.name name] := by
  obtain ⟨absolute, steps, asDirectory⟩ := path
  dsimp only at h
  subst h
  cases absolute with
  | true => simp [countedSteps]
  | false =>
      cases around with
      | nil => rfl
      | cons first rest => cases first <;> simp [countedSteps]

/-- Steps that never go up lead further down than all that they pass. -/
theorem length_le_of_mem_passed {steps : List PathStep} (h : .up ∉ steps)
    (hother : other ∈ passed place steps) :
    other.length ≤ (lead place steps).length := by
  induction steps generalizing place other with
  | nil =>
      rw [List.mem_singleton.1 hother]
      exact Nat.le_refl _
  | cons step rest ih =>
      rw [List.mem_cons, not_or] at h
      have hstep : place.length ≤ (lead place [step]).length := by
        cases step with
        | here => exact Nat.le_refl _
        | up => exact absurd rfl h.1
        | name name =>
            rw [lead, lead, List.length_append]
            exact Nat.le_add_right _ _
      rw [lead_cons]
      rcases mem_passed_cons.1 hother with rfl | hother
      · exact Nat.le_trans hstep (ih h.2 (start_mem_passed _ rest))
      · exact ih h.2 hother

end Steps
end Path

namespace FileTree

variable {tree : FileTree} {place : Place}

/-- A file stands at the place. -/
def HasFileAt (tree : FileTree) (place : Place) : Prop :=
  ∃ content access, tree.node? place = some (.file content access)

theorem isDirectoryAt_iff : tree.isDirectoryAt place = true ↔
    ∃ access, tree.node? place = some (.directory access) := by
  rw [isDirectoryAt]
  cases tree.node? place with
  | none => simp
  | some node => cases node <;> simp [FileNode.isDirectory]

theorem HasFileAt.not_isDirectoryAt (h : tree.HasFileAt place) :
    tree.isDirectoryAt place = false := by
  obtain ⟨content, access, hnode⟩ := h
  simp [isDirectoryAt, hnode, FileNode.isDirectory]

theorem not_hasFileAt_of_isDirectoryAt (h : tree.isDirectoryAt place = true) :
    ¬tree.HasFileAt place := by
  intro hfile
  rw [hfile.not_isDirectoryAt] at h
  cases h

theorem isSome_of_isDirectoryAt (h : tree.isDirectoryAt place = true) :
    (tree.node? place).isSome = true := by
  obtain ⟨access, hnode⟩ := isDirectoryAt_iff.1 h
  rw [hnode]
  rfl

/-- What stands and is no directory is a file. -/
theorem hasFileAt_of_stands (hstands : (tree.node? place).isSome = true)
    (h : tree.isDirectoryAt place = false) : tree.HasFileAt place := by
  obtain ⟨node, hnode⟩ := Option.isSome_iff_exists.1 hstands
  cases node with
  | file content access => exact ⟨content, access, hnode⟩
  | directory access =>
      simp [isDirectoryAt, hnode, FileNode.isDirectory] at h

/-! One step. -/

section Step

variable {step : PathStep} {next : Place} {error : FileError}

theorem follow_cons (tree : FileTree) (place : Place) (step : PathStep)
    (rest : List PathStep) :
    tree.follow place (step :: rest) =
      tree.follow place [step] >>= fun next => tree.follow next rest :=
  follow_append tree place [step] rest

/-- One step is taken from a directory. -/
theorem follow_step_eq_ok (h : tree.follow place [step] = .ok next) :
    tree.isDirectoryAt place = true ∧ next = Path.lead place [step] := by
  cases hplace : tree.isDirectoryAt place with
  | false => simp [follow, hplace] at h
  | true =>
      refine ⟨rfl, ?_⟩
      cases step with
      | here =>
          rw [follow, hplace] at h
          exact (Except.ok.inj h).symm
      | up =>
          rw [follow, hplace] at h
          exact (Except.ok.inj h).symm
      | name name => exact (follow_name_eq_ok h).1

/-- One step can be taken from a directory to what stands. -/
theorem follow_step_of_stands (hplace : tree.isDirectoryAt place = true)
    (hnext : (tree.node? (Path.lead place [step])).isSome = true) :
    tree.follow place [step] = .ok (Path.lead place [step]) := by
  cases step with
  | here => simp [follow, hplace, Path.lead]
  | up => simp [follow, hplace, Path.lead]
  | name name =>
      have hnode : ¬(tree.node? (place ++ [name])).isNone = true := by
        rwa [← Option.not_isSome, Bool.not_eq_true', Bool.not_eq_false]
      rw [follow, hplace, if_neg (by decide)]
      dsimp only
      rw [if_neg hnode]
      rfl

/-- One step leads to where something stands. -/
theorem Grounded.isSome_of_follow_step (hgrounded : tree.Grounded)
    (h : tree.follow place [step] = .ok next) :
    (tree.node? next).isSome = true := by
  obtain ⟨hplace, hnext⟩ := follow_step_eq_ok h
  cases step with
  | here =>
      rw [hnext]
      exact isSome_of_isDirectoryAt hplace
  | up =>
      rw [hnext]
      exact isSome_of_isDirectoryAt (hgrounded.isDirectoryAt_dropLast hplace)
  | name name => exact (follow_name_eq_ok h).2

/-- One step cannot be taken from what is no directory, nor to where nothing
stands. -/
theorem follow_step_eq_error (h : tree.follow place [step] = .error error) :
    tree.isDirectoryAt place = false ∨
      error = .notFound ∧ ∃ name, step = .name name ∧
        tree.node? (place ++ [name]) = none := by
  cases hplace : tree.isDirectoryAt place with
  | false => exact .inl rfl
  | true =>
      cases step with
      | here => simp [follow, hplace] at h
      | up => simp [follow, hplace] at h
      | name name =>
          rw [follow, hplace, if_neg (by decide)] at h
          dsimp only at h
          split at h
          · rename_i hnode
            cases h
            exact .inr ⟨rfl, name, rfl, Option.isNone_iff_eq_none.1 hnode⟩
          · cases h

end Step

/-! Many steps. -/

/-- Where directories stand all the way, it can be followed to its end. -/
theorem follow_of_directories {steps : List PathStep}
    (h : ∀ other ∈ Path.passed place steps, tree.isDirectoryAt other = true) :
    tree.follow place steps = .ok (Path.lead place steps) := by
  induction steps generalizing place with
  | nil => rfl
  | cons step rest ih =>
      have hrest : ∀ other ∈ Path.passed (Path.lead place [step]) rest,
          tree.isDirectoryAt other = true :=
        fun other hother => h other (Path.mem_passed_cons.2 (.inr hother))
      have hnext := hrest _ (Path.start_mem_passed _ rest)
      rw [follow_cons, follow_step_of_stands
        (h place (Path.start_mem_passed place _))
        (isSome_of_isDirectoryAt hnext), Path.lead_cons place step rest]
      exact ih hrest

/-- A way that can be followed leads where its steps say. -/
theorem lead_of_follow {steps : List PathStep} {last : Place}
    (h : tree.follow place steps = .ok last) : last = Path.lead place steps := by
  induction steps generalizing place with
  | nil =>
      cases h
      rfl
  | cons step rest ih =>
      rw [follow_cons, Outcome.bind_eq_ok_iff] at h
      obtain ⟨next, hnext, hlast⟩ := h
      rw [Path.lead_cons, ← (follow_step_eq_ok hnext).2]
      exact ih hlast

/-- A way that can be followed to a directory passes only directories. -/
theorem directories_of_follow {steps : List PathStep} {last : Place}
    (h : tree.follow place steps = .ok last)
    (hlast : tree.isDirectoryAt last = true) :
    ∀ other ∈ Path.passed place steps, tree.isDirectoryAt other = true := by
  induction steps generalizing place with
  | nil =>
      cases h
      intro other hother
      rwa [List.mem_singleton.1 hother]
  | cons step rest ih =>
      rw [follow_cons, Outcome.bind_eq_ok_iff] at h
      obtain ⟨next, hnext, hrest⟩ := h
      obtain ⟨hplace, hlead⟩ := follow_step_eq_ok hnext
      intro other hother
      rw [Path.mem_passed_cons, ← hlead] at hother
      rcases hother with rfl | hother
      · exact hplace
      · exact ih hrest other hother

namespace Grounded

/-- A way leads from where something stands to where something stands. -/
theorem isSome_of_follow (hgrounded : tree.Grounded)
    {steps : List PathStep} {last : Place}
    (hplace : (tree.node? place).isSome = true)
    (h : tree.follow place steps = .ok last) :
    (tree.node? last).isSome = true := by
  induction steps generalizing place with
  | nil =>
      cases h
      exact hplace
  | cons step rest ih =>
      rw [follow_cons, Outcome.bind_eq_ok_iff] at h
      obtain ⟨next, hnext, hlast⟩ := h
      exact ih (hgrounded.isSome_of_follow_step hnext) hlast

/-- A way that fails although nothing is missing has a file on it. -/
theorem exists_file_of_follow (hgrounded : tree.Grounded)
    {steps : List PathStep} {error : FileError}
    (hplace : (tree.node? place).isSome = true)
    (h : tree.follow place steps = .error error) (herror : error ≠ .notFound) :
    ∃ other ∈ Path.passed place steps, tree.HasFileAt other := by
  induction steps generalizing place with
  | nil => cases h
  | cons step rest ih =>
      rw [follow_cons, Outcome.bind_eq_error_iff] at h
      rcases h with hstep | ⟨next, hnext, hrest⟩
      · have hnot := (follow_step_eq_error hstep).resolve_right
          fun hmissing => herror hmissing.1
        exact ⟨place, Path.start_mem_passed place _,
          hasFileAt_of_stands hplace hnot⟩
      · obtain ⟨other, hother, hfile⟩ :=
          ih (hgrounded.isSome_of_follow_step hnext) hrest
        rw [(follow_step_eq_ok hnext).2] at hother
        exact ⟨other, Path.mem_passed_cons.2 (.inr hother), hfile⟩

/-! Ways down. -/

/-- On the way down to a directory there are only directories. -/
theorem directories_of_lead (hgrounded : tree.Grounded)
    {steps : List PathStep} (hdown : .up ∉ steps)
    (h : tree.isDirectoryAt (Path.lead place steps) = true) :
    ∀ other ∈ Path.passed place steps, tree.isDirectoryAt other = true := by
  induction steps generalizing place with
  | nil =>
      intro other hother
      rwa [List.mem_singleton.1 hother]
  | cons step rest ih =>
      rw [List.mem_cons, not_or] at hdown
      rw [Path.lead_cons] at h
      have hrest := ih hdown.2 h
      intro other hother
      rcases Path.mem_passed_cons.1 hother with rfl | hother
      · have hnext := hrest _ (Path.start_mem_passed _ rest)
        cases step with
        | here => exact hnext
        | up => exact absurd rfl hdown.1
        | name name =>
            exact hgrounded other name (isSome_of_isDirectoryAt hnext)
      · exact hrest other hother

/-- On the way down from where nothing stands there is nothing. -/
theorem none_of_passed (hgrounded : tree.Grounded)
    {steps : List PathStep} (hdown : .up ∉ steps)
    (h : tree.node? place = none) :
    ∀ other ∈ Path.passed place steps, tree.node? other = none := by
  induction steps generalizing place with
  | nil =>
      intro other hother
      rwa [List.mem_singleton.1 hother]
  | cons step rest ih =>
      rw [List.mem_cons, not_or] at hdown
      have hnext : tree.node? (Path.lead place [step]) = none := by
        cases step with
        | here => exact h
        | up => exact absurd rfl hdown.1
        | name name =>
            rw [← Option.not_isSome_iff_eq_none]
            intro hstands
            have hplace := isSome_of_isDirectoryAt (hgrounded place name hstands)
            rw [h] at hplace
            cases hplace
      intro other hother
      rcases Path.mem_passed_cons.1 hother with rfl | hother
      · exact h
      · exact ih hdown.2 hnext other hother

end Grounded
end FileTree
end RegionSnapshot
