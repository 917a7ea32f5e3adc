/-
Resources in files that stand.  What is written to the file is what is read
from it, other files are left alone, and which resource a location leads to
depends on what stands where but not on what is in the files.
-/
import RegionSnapshot.Proofs.Files.Standing
import RegionSnapshot.Proofs.Stream.Schedules
import RegionSnapshot.Resource.Loader
import RegionSnapshot.Resource.Transfer

namespace RegionSnapshot

namespace Resource

/-- Writing to a resource that can be written fails just if it cannot be opened,
and otherwise puts the bytes where it was opened. -/
theorem write_of_isWritable {r : Resource} {tree : FileTree} {bytes : Bytes}
    (size : Nat) (hbytes : bytes ≠ []) (hwritable : r.isWritable tree = true) :
    r.write size tree bytes =
      match r.openWrite tree with
      | (.ok place, opened) => (.ok (), opened.overwrite place bytes)
      | (.error cause, opened) =>
          (.error (.writeFailed r.location bytes.length cause), opened) := by
  have hempty : bytes.isEmpty = false := by
    simpa using hbytes
  obtain ⟨hresult, hreceived⟩ := send_steady
    (Nat.lt_of_lt_of_le Nat.zero_lt_one (Nat.le_max_left 1 size)) bytes
  rcases hopen : r.openWrite tree with ⟨cause | place, opened⟩
  · simp [write, hwritable, hopen, hempty, writeTo, Except.map]
  · simp [write, hwritable, hopen, hempty, writeTo, Except.map, hresult,
      hreceived]

/-- A resource that is not writable is not touched. -/
theorem write_of_not_isWritable {r : Resource} {tree : FileTree} {bytes : Bytes}
    (size : Nat) (hbytes : bytes ≠ []) (h : r.isWritable tree = false) :
    r.write size tree bytes = (.error (.notWritable r.location), tree) := by
  have hempty : bytes.isEmpty = false := by
    simpa using hbytes
  simp [write, writeTo, h, hempty]

/-- Only files can be opened for writing. -/
theorem exists_of_openWrite {r : Resource} {tree opened : FileTree}
    {place : Place} (h : r.openWrite tree = (.ok place, opened)) :
    ∃ location text, r = .file location text ∧
      tree.openForWriting (.ofText text) = (.ok place, opened) := by
  cases r with
  | file location text =>
      rw [openWrite] at h
      split at h
      · rename_i hopen
        cases h
        exact ⟨location, text, rfl, hopen⟩
      · cases h
  | classpath | memory | url => cases h

/-- Writing to a file that stands puts the bytes into it and changes no other
file. -/
theorem exists_write {tree : FileTree} {path : String} {place : Place}
    {content bytes : Bytes} {access : Access} (hgrounded : tree.Grounded)
    (h : tree.HasFile (.ofText path) place content access)
    (hwrite : access.write = true) (hbytes : bytes ≠ []) (size : Nat)
    (location : String) :
    ∃ after, (Resource.file location path).write size tree bytes =
        (.ok (), after) ∧
      after.SameShape tree ∧ after.node? place = some (.file bytes access) ∧
      ∀ other, other ≠ place → after.node? other = tree.node? other := by
  have hwritable : (Resource.file location path).isWritable tree = true :=
    h.isWritable hwrite
  have hemptied : (tree.set place (.file [] access)).node? place =
      some (.file [] access) := by
    rw [FileTree.node?_set _ _ _ _ h.ne_nil, if_pos rfl]
  refine ⟨(tree.set place (.file [] access)).set place (.file bytes access), ?_,
    (FileTree.sameShape_set hemptied bytes).trans
      (FileTree.sameShape_set h.node []), ?_, ?_⟩
  · rw [write_of_isWritable size hbytes hwritable]
    simp only [openWrite, h.openForWriting hgrounded hwrite,
      FileTree.overwrite_of_empty hemptied]
  · rw [FileTree.node?_set _ _ _ _ h.ne_nil, if_pos rfl]
  · intro other hother
    rw [FileTree.node?_set _ _ _ _ h.ne_nil, if_neg hother,
      FileTree.node?_set _ _ _ _ h.ne_nil, if_neg hother]

/-- A resource in a file that stands is read as the content of the file, if the
file may be read. -/
theorem read_of_hasFile {tree : FileTree} {r : Resource} {path : Path}
    {place : Place} {content : Bytes} {access : Access}
    (hpath : r.path? = some path)
    (h : tree.HasFile path place content access) (size : Nat) :
    r.read size tree =
      if access.read then .ok content
      else .error (.readFailed r.location (.file .permissionDenied)) := by
  have hopen : r.openRead tree =
      if access.read then .ok (.steady content)
      else .error (.file .permissionDenied) := by
    cases r with
    | memory location bytes => cases hpath
    | url address agent => cases hpath
    | file | classpath =>
        simp only [openRead, hpath, h.content_eq]
        cases access.read <;> rfl
  rw [read, hopen]
  cases access.read with
  | false => rfl
  | true => simp [readFrom, Source.drain, Source.steady, drainFrom]

theorem isReadable_of_path? {tree : FileTree} {r : Resource} {path : Path}
    (hpath : r.path? = some path) :
    r.isReadable tree = tree.isReadable path := by
  cases r with
  | memory location content => cases hpath
  | url address agent => cases hpath
  | file | classpath =>
      rw [Resource.isReadable, hpath]
      · rfl
      · simp
      · simp

/-- A resource is read alike from trees in which its path has one content. -/
theorem read_congr {first second : FileTree} {r : Resource}
    (h : ∀ path, r.path? = some path →
      first.content path = second.content path) (size : Nat) :
    r.read size first = r.read size second := by
  have hopen : r.openRead first = r.openRead second := by
    cases r with
    | memory location content => rfl
    | url address agent => rfl
    | file | classpath =>
        simp only [openRead]
        split
        · rfl
        · rename_i path hpath
          rw [h path hpath]
  rw [read, read, hopen]

variable {first second : FileTree}

theorem isThere_eq (h : first.SameShape second) (r : Resource) :
    r.isThere first = r.isThere second := by
  cases r <;> simp only [isThere, path?, Option.map_map, Function.comp_def,
    Option.map_some, h.stands]

theorem isReadable_eq (h : first.SameShape second) (r : Resource) :
    r.isReadable first = r.isReadable second := by
  cases r <;> simp only [isReadable, path?, Option.map_map, Function.comp_def,
    Option.map_some, h.isReadable]

/-- A resource that cannot be opened in one tree cannot be opened in one of
the same shape. -/
theorem exists_openRead_error (h : first.SameShape second) {r : Resource}
    {error : IoError} (hopen : r.openRead first = .error error) :
    ∃ other, r.openRead second = .error other := by
  cases r with
  | memory location bytes => cases hopen
  | url address agent => exact ⟨error, hopen⟩
  | file | classpath =>
      simp only [openRead] at hopen ⊢
      split
      · exact ⟨_, rfl⟩
      · rename_i path hpath
        simp only [hpath] at hopen
        cases hfirst : first.content path with
        | ok bytes =>
            rw [hfirst] at hopen
            cases hopen
        | error cause =>
            obtain ⟨other, hother⟩ := h.exists_content_error hfirst
            exact ⟨_, by rw [hother]⟩

end Resource

variable {first second : FileTree}

theorem findOnClasspath_eq (h : first.SameShape second) (roots : List String)
    (entry : String) :
    findOnClasspath first roots entry = findOnClasspath second roots entry := by
  simp only [findOnClasspath, h.isFile]

theorem Loader.load?_eq (h : first.SameShape second) (loader : Loader)
    (text : String) : loader.load? first text = loader.load? second text := by
  simp only [load?, loadBare, Resource.ofEntry, findOnClasspath_eq h]

theorem Resolver.resolve_eq (h : first.SameShape second) (resolver : Resolver)
    (location : String) :
    resolver.resolve first location = resolver.resolve second location := by
  cases resolver <;>
    simp only [resolve, Loader.load?_eq h, Resource.isThere_eq h]

end RegionSnapshot
