/-
Files that stand.  Writing to a file that stands makes no directories and
changes nothing but the content of that file; so all paths lead where they led
before, and only reading the file itself gives something else.
-/
import RegionSnapshot.Files.Tree
import RegionSnapshot.Proofs.Outcome

namespace RegionSnapshot

namespace FileNode

/-- What stands at a place, whatever is in it. -/
def withoutContent : FileNode → FileNode
  | .file _ access => .file [] access
  | .directory access => .directory access

theorem isDirectory_eq {first second : FileNode}
    (h : first.withoutContent = second.withoutContent) :
    first.isDirectory = second.isDirectory := by
  cases first <;> cases second <;> simp_all [withoutContent, isDirectory]

theorem access_eq {first second : FileNode}
    (h : first.withoutContent = second.withoutContent) :
    first.access = second.access := by
  cases first <;> cases second <;> simp_all [withoutContent, access]

theorem isFile_comp_withoutContent :
    isFile ∘ withoutContent = isFile := by
  funext node
  cases node <;> rfl

end FileNode

namespace FileTree

/-- Around each node there are directories. -/
def Grounded (tree : FileTree) : Prop :=
  ∀ (place : Place) (name : String),
    (tree.node? (place ++ [name])).isSome = true →
      tree.isDirectoryAt place = true

/-- A tree is grounded if each of its nodes stands in a directory. -/
theorem grounded_of_nodes {tree : FileTree}
    (h : ∀ entry ∈ tree.nodes, tree.isDirectoryAt entry.1.dropLast = true) :
    tree.Grounded := by
  intro place name hnode
  have hlookup : tree.node? (place ++ [name]) =
      tree.nodes.lookup (place ++ [name]) := by
    cases place <;> rfl
  rw [hlookup, List.lookup_isSome_iff] at hnode
  obtain ⟨entry, hentry, heq⟩ := hnode
  have hdirectory := h entry hentry
  rwa [← eq_of_beq heq, List.dropLast_concat] at hdirectory

theorem Grounded.isDirectoryAt_dropLast {tree : FileTree} (h : tree.Grounded)
    {place : Place} (hplace : tree.isDirectoryAt place = true) :
    tree.isDirectoryAt place.dropLast = true := by
  rcases List.eq_nil_or_concat place with rfl | ⟨parent, name, rfl⟩
  · exact hplace
  · rw [List.concat_eq_append] at hplace ⊢
    rw [List.dropLast_concat]
    apply h parent name
    rw [isDirectoryAt] at hplace
    cases hnode : tree.node? (parent ++ [name]) with
    | none => simp [hnode] at hplace
    | some node => rfl

theorem follow_append (tree : FileTree) (place : Place)
    (first second : List PathStep) :
    tree.follow place (first ++ second) =
      tree.follow place first >>= fun next => tree.follow next second := by
  induction first generalizing place with
  | nil => rfl
  | cons step rest ih =>
      cases step <;> simp only [List.cons_append, follow, ih] <;>
        split <;> try rfl
      split <;> rfl

/-- A last step is taken from a directory. -/
theorem follow_concat_eq_ok {tree : FileTree} {place last : Place}
    {steps : List PathStep} {step : PathStep}
    (h : tree.follow place (steps ++ [step]) = .ok last) :
    ∃ next, tree.follow place steps = .ok next ∧
      tree.isDirectoryAt next = true ∧ tree.follow next [step] = .ok last := by
  rw [follow_append, Outcome.bind_eq_ok_iff] at h
  obtain ⟨next, hnext, hlast⟩ := h
  refine ⟨next, hnext, ?_, hlast⟩
  cases hdirectory : tree.isDirectoryAt next with
  | true => rfl
  | false => simp [follow, hdirectory] at hlast

theorem follow_name_eq_ok {tree : FileTree} {place last : Place}
    {name : String} (h : tree.follow place [.name name] = .ok last) :
    last = place ++ [name] ∧ (tree.node? last).isSome = true := by
  simp only [follow] at h
  split at h
  · cases h
  · split at h
    · cases h
    · rename_i hnode
      cases h
      exact ⟨rfl, Option.isSome_iff_ne_none.2 (by simpa using hnode)⟩

/-- Steps to nowhere may be left out. -/
theorem follow_filter {tree : FileTree} {place last : Place}
    {steps : List PathStep} (h : tree.follow place steps = .ok last) :
    tree.follow place (steps.filter (· ≠ .here)) = .ok last := by
  induction steps generalizing place with
  | nil => exact h
  | cons step rest ih =>
      cases step with
      | here =>
          simp only [follow] at h
          split at h
          · cases h
          · exact ih h
      | up =>
          simp only [follow] at h
          split at h
          · cases h
          · rename_i hdirectory
            simpa [follow, hdirectory] using ih h
      | name name =>
          simp only [follow] at h
          split at h
          · cases h
          · rename_i hdirectory
            split at h
            · cases h
            · rename_i hnode
              simpa [follow, hdirectory, hnode] using ih h

theorem follow_countedSteps {tree : FileTree} {place last : Place}
    {path : Path} (h : tree.follow place path.steps = .ok last) :
    tree.follow place path.countedSteps = .ok last := by
  obtain ⟨absolute, steps, asDirectory⟩ := path
  cases absolute with
  | true => exact follow_filter h
  | false =>
      cases steps with
      | nil => exact h
      | cons step rest =>
          cases step with
          | up | name => exact follow_filter h
          | here =>
              simp only [Path.countedSteps, follow] at h ⊢
              split at h
              · cases h
              · rename_i hdirectory
                rw [if_neg hdirectory]
                exact follow_filter h

end FileTree

theorem Path.head?_properPrefixes {β : Type} (steps : List β) :
    (properPrefixes steps).head? =
      if steps = [] then none else some steps.dropLast := by
  induction steps with
  | nil => rfl
  | cons step rest ih =>
      cases rest with
      | nil => rfl
      | cons next more =>
          rw [properPrefixes, List.head?_append, List.head?_map, ih]
          simp

namespace FileTree

/-- A directory that a path leads to stands already. -/
theorem ensureDirectory_of_follow {tree : FileTree} (path : Path)
    {place : Place} (hsteps : path.steps ≠ []) (hslash : path.asDirectory = false)
    (hfollow : tree.follow (tree.origin path.absolute) path.steps = .ok place)
    (hdirectory : tree.isDirectoryAt place = true) :
    tree.ensureDirectory path = (.ok (), tree) := by
  have hempty : path.isEmpty = false := by
    simp [Path.isEmpty, hsteps]
  obtain ⟨steps, step, hconcat⟩ : ∃ steps step, path.steps = steps ++ [step] := by
    rcases List.eq_nil_or_concat path.steps with hnil | ⟨steps, step, h⟩
    · exact absurd hnil hsteps
    · exact ⟨steps, step, by rw [h, List.concat_eq_append]⟩
  have hfollow' := hfollow
  rw [hconcat] at hfollow'
  obtain ⟨parent, hparent, hparentDirectory, hlast⟩ := follow_concat_eq_ok hfollow'
  have hmake : tree.makeDirectory path = .error .alreadyExists := by
    rw [makeDirectory, target, hempty, hconcat, List.dropLast_concat, hparent,
      List.getLast?_concat]
    cases step with
    | here => simp [hparentDirectory, bind, Except.bind]; rfl
    | up => simp [hparentDirectory, bind, Except.bind]; rfl
    | name name =>
        obtain ⟨rfl, hnode⟩ := follow_name_eq_ok hlast
        simp [hparentDirectory, bind, Except.bind, pure, Except.pure, hnode]
        rfl
  have hstands : tree.isDirectory path = true := by
    obtain ⟨node, hnode, hkind⟩ : ∃ node, tree.node? place = some node ∧
        node.isDirectory = true := by
      rw [isDirectoryAt] at hdirectory
      cases hnode : tree.node? place with
      | none => simp [hnode] at hdirectory
      | some node => exact ⟨node, rfl, by simpa [hnode] using hdirectory⟩
    simp [isDirectory, find?, locate, hempty, hfollow, hnode, hslash, hkind,
      bind, Except.bind, pure, Except.pure]
  rw [ensureDirectory, hmake]
  simp [hstands]

/-- The directories around a path that leads somewhere stand already. -/
theorem makeParents_of_follow {tree : FileTree} {path : Path} {place : Place}
    (hfollow : tree.follow (tree.origin path.absolute) path.steps = .ok place) :
    tree.makeParents path = (.ok (), tree) := by
  have hcounted := follow_countedSteps hfollow
  have hhead := Path.head?_properPrefixes path.countedSteps
  rw [makeParents, Path.parent?, Path.ancestors, List.head?_map, hhead]
  by_cases hnil : path.countedSteps = []
  · simp [hnil]
  · rw [if_neg hnil]
    obtain ⟨steps, step, hconcat⟩ :
        ∃ steps step, path.countedSteps = steps ++ [step] := by
      rcases List.eq_nil_or_concat path.countedSteps with h | ⟨steps, step, h⟩
      · exact absurd h hnil
      · exact ⟨steps, step, by rw [h, List.concat_eq_append]⟩
    rw [hconcat] at hcounted
    obtain ⟨parent, hparent, hdirectory, -⟩ := follow_concat_eq_ok hcounted
    simp only [Option.map_some, hconcat, List.dropLast_concat]
    cases hsteps : steps.reverse with
    | nil => rfl
    | cons first rest =>
        have heq : (first :: rest).reverse = steps := by
          rw [← hsteps, List.reverse_reverse]
        have hne : steps ≠ [] := by
          rintro rfl
          simp at hsteps
        have hensure := ensureDirectory_of_follow
          ⟨path.absolute, steps, false⟩ hne rfl hparent hdirectory
        rw [makeDirectories, heq, hensure]

theorem locate_eq {path : Path} (h : path.isEmpty = false) (tree : FileTree) :
    tree.locate path =
      tree.follow (tree.origin path.absolute) path.steps >>= fun place =>
        match tree.node? place with
        | none => .error .notFound
        | some node =>
            if path.asDirectory && !node.isDirectory then .error .notADirectory
            else .ok (place, node) := by
  rw [locate, h]
  rfl

theorem locate_eq_ok_iff {tree : FileTree} {path : Path} {place : Place}
    {node : FileNode} :
    tree.locate path = .ok (place, node) ↔ path.isEmpty = false ∧
      tree.follow (tree.origin path.absolute) path.steps = .ok place ∧
      tree.node? place = some node ∧
      (path.asDirectory = true → node.isDirectory = true) := by
  cases hempty : path.isEmpty with
  | true => simp [locate, hempty, bind, Except.bind]
  | false =>
      rw [locate_eq hempty, Outcome.bind_eq_ok_iff]
      constructor
      · rintro ⟨next, hnext, h⟩
        cases hnode : tree.node? next with
        | none =>
            rw [hnode] at h
            cases h
        | some found =>
            rw [hnode] at h
            dsimp only at h
            split at h
            · cases h
            · rename_i hcheck
              cases h
              exact ⟨rfl, hnext, hnode, fun hslash => by
                simpa [hslash] using hcheck⟩
      · rintro ⟨-, hfollow, hnode, hslash⟩
        refine ⟨place, hfollow, ?_⟩
        rw [hnode]
        dsimp only
        rw [if_neg]
        rw [Bool.and_eq_true, Bool.not_eq_true']
        rintro ⟨hd, hkind⟩
        rw [hslash hd] at hkind
        cases hkind

/-- What a path leads to is opened for reading by its own permission. -/
theorem openForReading_of_locate {tree : FileTree} {path : Path}
    {place : Place} {node : FileNode}
    (h : tree.locate path = .ok (place, node)) :
    tree.openForReading path =
      if node.access.read then .ok node else .error .permissionDenied := by
  rw [openForReading, h]
  cases hread : node.access.read with
  | false =>
      simp only [bind, Except.bind, hread]
      rfl
  | true =>
      simp only [bind, Except.bind, hread]
      rfl

/-- The path leads to a file at `place`. -/
def HasFile (tree : FileTree) (path : Path) (place : Place) (content : Bytes)
    (access : Access) : Prop :=
  tree.locate path = .ok (place, .file content access)

namespace HasFile

variable {tree : FileTree} {path : Path} {place : Place} {content : Bytes}
variable {access : Access}

theorem node (h : tree.HasFile path place content access) :
    tree.node? place = some (.file content access) :=
  (locate_eq_ok_iff.1 h).2.2.1

theorem ne_nil (h : tree.HasFile path place content access) : place ≠ [] := by
  rintro rfl
  cases h.node

theorem isWritable (h : tree.HasFile path place content access)
    (hwrite : access.write = true) : tree.isWritable path = true := by
  have hlocate : tree.locate path = _ := h
  simp [FileTree.isWritable, find?, hlocate, FileNode.isFile, FileNode.access,
    hwrite]

theorem isFile (h : tree.HasFile path place content access) :
    tree.isFile path = true := by
  have hlocate : tree.locate path = _ := h
  simp [FileTree.isFile, find?, hlocate, FileNode.isFile]

theorem openForReading (h : tree.HasFile path place content access) :
    tree.openForReading path =
      if access.read then .ok (.file content access)
      else .error .permissionDenied :=
  openForReading_of_locate h

theorem content_eq (h : tree.HasFile path place content access) :
    tree.content path =
      if access.read then .ok content else .error .permissionDenied := by
  rw [FileTree.content, h.openForReading]
  cases access.read <;> rfl

theorem isReadable (h : tree.HasFile path place content access) :
    tree.isReadable path = access.read := by
  rw [FileTree.isReadable, h.isFile, h.openForReading]
  cases access.read <;> rfl

/-- The last step of the path is the name of the file. -/
theorem exists_name (hgrounded : tree.Grounded)
    (h : tree.HasFile path place content access) :
    ∃ steps parent name, path.steps = steps ++ [.name name] ∧
      tree.follow (tree.origin path.absolute) steps = .ok parent ∧
      tree.isDirectoryAt parent = true ∧ place = parent ++ [name] := by
  obtain ⟨hempty, hfollow, hnode, -⟩ := locate_eq_ok_iff.1 h
  have hfile : tree.isDirectoryAt place = false := by
    simp [isDirectoryAt, hnode, FileNode.isDirectory]
  rcases List.eq_nil_or_concat path.steps with hnil | ⟨steps, step, hconcat⟩
  · rw [hnil] at hfollow
    have horigin : tree.origin path.absolute = place := Except.ok.inj hfollow
    have habsolute : path.absolute = true := by
      simpa [Path.isEmpty, hnil] using hempty
    rw [origin, habsolute, if_pos rfl] at horigin
    exact absurd horigin.symm h.ne_nil
  · rw [List.concat_eq_append] at hconcat
    rw [hconcat] at hfollow
    obtain ⟨parent, hparent, hdirectory, hlast⟩ := follow_concat_eq_ok hfollow
    cases step with
    | name name =>
        exact ⟨steps, parent, name, hconcat, hparent, hdirectory,
          (follow_name_eq_ok hlast).1⟩
    | here =>
        simp only [follow, hdirectory] at hlast
        cases hlast
        rw [hdirectory] at hfile
        cases hfile
    | up =>
        simp only [follow, hdirectory] at hlast
        cases hlast
        have habove := hgrounded.isDirectoryAt_dropLast hdirectory
        rw [habove] at hfile
        cases hfile

/-- Opening the file for writing only empties it. -/
theorem openForWriting (hgrounded : tree.Grounded)
    (h : tree.HasFile path place content access)
    (hwrite : access.write = true) :
    tree.openForWriting path =
      (.ok place, tree.set place (.file [] access)) := by
  obtain ⟨hempty, hfollow, hnode, hslash⟩ := locate_eq_ok_iff.1 h
  obtain ⟨steps, parent, name, hsteps, hparent, hdirectory, rfl⟩ :=
    h.exists_name hgrounded
  have hnoSlash : path.asDirectory = false := by
    simpa [FileNode.isDirectory] using hslash
  have htruncate : tree.truncate path =
      .ok (parent ++ [name], tree.set (parent ++ [name]) (.file [] access)) := by
    simp [truncate, target, hempty, hsteps, hparent, hdirectory, hnoSlash, hnode,
      hwrite, bind, Except.bind, pure, Except.pure]
  rw [FileTree.openForWriting, makeParents_of_follow hfollow]
  dsimp only
  rw [htruncate]

end HasFile

/-- The same nodes stand at the same places; only the content of files may
differ. -/
structure SameShape (first second : FileTree) : Prop where
  workingDirectory : first.workingDirectory = second.workingDirectory
  node : ∀ place, (first.node? place).map FileNode.withoutContent =
    (second.node? place).map FileNode.withoutContent

namespace SameShape

variable {first second third : FileTree}

theorem refl (tree : FileTree) : tree.SameShape tree :=
  ⟨rfl, fun _ => rfl⟩

theorem symm (h : first.SameShape second) : second.SameShape first :=
  ⟨h.workingDirectory.symm, fun place => (h.node place).symm⟩

theorem trans (h : first.SameShape second) (h' : second.SameShape third) :
    first.SameShape third :=
  ⟨h.workingDirectory.trans h'.workingDirectory,
    fun place => (h.node place).trans (h'.node place)⟩

theorem isNone (h : first.SameShape second) (place : Place) :
    (first.node? place).isNone = (second.node? place).isNone := by
  have hnode := congrArg Option.isNone (h.node place)
  rwa [Option.isNone_map, Option.isNone_map] at hnode

theorem exists_node (h : first.SameShape second) {place : Place}
    {node : FileNode} (hnode : first.node? place = some node) :
    ∃ other, second.node? place = some other ∧
      other.withoutContent = node.withoutContent := by
  have hshape := h.node place
  rw [hnode, Option.map_some, eq_comm, Option.map_eq_some_iff] at hshape
  exact hshape

theorem isDirectoryAt (h : first.SameShape second) (place : Place) :
    first.isDirectoryAt place = second.isDirectoryAt place := by
  rw [FileTree.isDirectoryAt, FileTree.isDirectoryAt]
  cases hfirst : first.node? place with
  | none =>
      have hnone := h.isNone place
      rw [hfirst] at hnone
      rw [Option.isNone_iff_eq_none.1 hnone.symm]
  | some node =>
      obtain ⟨other, hother, hshape⟩ := h.exists_node hfirst
      rw [hother, Option.map_some, Option.map_some, Option.getD_some,
        Option.getD_some, FileNode.isDirectory_eq hshape]

theorem follow (h : first.SameShape second) (place : Place)
    (steps : List PathStep) :
    first.follow place steps = second.follow place steps := by
  induction steps generalizing place with
  | nil => rfl
  | cons step rest ih =>
      cases step <;>
        simp only [FileTree.follow, h.isDirectoryAt, h.isNone, ih]

theorem exists_locate (h : first.SameShape second) {path : Path}
    {place : Place} {node : FileNode}
    (hlocate : first.locate path = .ok (place, node)) :
    ∃ other, second.locate path = .ok (place, other) ∧
      other.withoutContent = node.withoutContent := by
  obtain ⟨hempty, hfollow, hnode, hslash⟩ := locate_eq_ok_iff.1 hlocate
  obtain ⟨other, hother, hshape⟩ := h.exists_node hnode
  refine ⟨other, locate_eq_ok_iff.2 ⟨hempty, ?_, hother, ?_⟩, hshape⟩
  · rw [← h.follow, FileTree.origin, ← h.workingDirectory]
    exact hfollow
  · rw [FileNode.isDirectory_eq hshape]
    exact hslash

theorem find? (h : first.SameShape second) (path : Path) :
    (first.find? path).map FileNode.withoutContent =
      (second.find? path).map FileNode.withoutContent := by
  rw [FileTree.find?, FileTree.find?]
  cases hfirst : first.locate path with
  | ok found =>
      obtain ⟨other, hother, hshape⟩ := h.exists_locate hfirst
      rw [hother]
      exact congrArg some hshape.symm
  | error e =>
      cases hsecond : second.locate path with
      | error e' => rfl
      | ok found =>
          obtain ⟨other, hother, -⟩ := h.symm.exists_locate hsecond
          rw [hfirst] at hother
          cases hother

theorem stands (h : first.SameShape second) (path : Path) :
    first.stands path = second.stands path := by
  have hfind := congrArg Option.isSome (h.find? path)
  rwa [Option.isSome_map, Option.isSome_map] at hfind

theorem isFile (h : first.SameShape second) (path : Path) :
    first.isFile path = second.isFile path := by
  have hfind := congrArg
    (fun found => (found.map FileNode.isFile).getD false) (h.find? path)
  simpa only [FileTree.isFile, Option.map_map,
    FileNode.isFile_comp_withoutContent] using hfind

theorem grounded (h : first.SameShape second) (hfirst : first.Grounded) :
    second.Grounded := by
  intro place name hnode
  rw [← h.isDirectoryAt]
  apply hfirst place name
  have hnone := h.isNone (place ++ [name])
  rw [← Option.not_isNone] at hnode ⊢
  rwa [hnone]

theorem exists_hasFile (h : first.SameShape second) {path : Path}
    {place : Place} {content : Bytes} {access : Access}
    (hfile : first.HasFile path place content access) :
    ∃ other, second.HasFile path place other access := by
  obtain ⟨node, hlocate, hshape⟩ := h.exists_locate hfile
  cases node with
  | directory access' => cases hshape
  | file other access' =>
      simp only [FileNode.withoutContent, FileNode.file.injEq, true_and] at hshape
      subst hshape
      exact ⟨other, hlocate⟩

/-- What can be opened in one tree can be opened in one of the same shape. -/
theorem exists_openForReading (h : first.SameShape second) {path : Path}
    {node : FileNode} (hopen : first.openForReading path = .ok node) :
    ∃ other, second.openForReading path = .ok other ∧
      other.withoutContent = node.withoutContent := by
  obtain ⟨⟨place, found⟩, hlocate, -⟩ := Outcome.bind_eq_ok_iff.1 hopen
  obtain ⟨other, hother, hshape⟩ := h.exists_locate hlocate
  rw [openForReading_of_locate hlocate, ← FileNode.access_eq hshape] at hopen
  rw [openForReading_of_locate hother]
  cases hread : other.access.read with
  | false =>
      rw [hread] at hopen
      cases hopen
  | true =>
      rw [hread] at hopen
      cases hopen
      exact ⟨other, rfl, hshape⟩

theorem isReadable (h : first.SameShape second) (path : Path) :
    first.isReadable path = second.isReadable path := by
  have hopens : (first.openForReading path).toOption.isSome =
      (second.openForReading path).toOption.isSome := by
    cases hfirst : first.openForReading path with
    | ok node =>
        obtain ⟨other, hother, -⟩ := h.exists_openForReading hfirst
        rw [hother]
        rfl
    | error error =>
        cases hsecond : second.openForReading path with
        | error => rfl
        | ok node =>
            obtain ⟨other, hother, -⟩ := h.symm.exists_openForReading hsecond
            rw [hfirst] at hother
            cases hother
  rw [FileTree.isReadable, FileTree.isReadable, h.isFile, hopens]

/-- Where one tree has no content, neither has one of the same shape. -/
theorem exists_content_error (h : first.SameShape second) {path : Path}
    {error : FileError} (hcontent : first.content path = .error error) :
    ∃ other, second.content path = .error other := by
  cases hsecond : second.content path with
  | error other => exact ⟨other, rfl⟩
  | ok bytes =>
      rw [FileTree.content] at hsecond
      obtain ⟨node, hopen, hnode⟩ := Outcome.bind_eq_ok_iff.1 hsecond
      obtain ⟨other, hother, hshape⟩ := h.symm.exists_openForReading hopen
      cases node with
      | directory access => cases hnode
      | file content access =>
          cases other with
          | directory access' => cases hshape
          | file content' access' =>
              rw [FileTree.content, hother] at hcontent
              cases hcontent

end SameShape

/-- What is written into a file without content is then its content. -/
theorem overwrite_of_empty {tree : FileTree} {place : Place}
    {access : Access} (hnode : tree.node? place = some (.file [] access))
    (bytes : Bytes) :
    tree.overwrite place bytes = tree.set place (.file bytes access) := by
  rw [overwrite, hnode]
  dsimp only
  rw [List.drop_nil, List.append_nil]

/-- A new content in a file that stands. -/
theorem sameShape_set {tree : FileTree} {place : Place} {content : Bytes}
    {access : Access} (h : tree.node? place = some (.file content access))
    (bytes : Bytes) :
    (tree.set place (.file bytes access)).SameShape tree := by
  have hplace : place ≠ [] := by
    rintro rfl
    cases h
  refine ⟨rfl, fun other => ?_⟩
  rw [node?_set tree place other _ hplace]
  by_cases hother : other = place
  · subst hother
    rw [if_pos rfl, h]
    rfl
  · rw [if_neg hother]

end FileTree
end RegionSnapshot
