/-
Writing a snapshot in its standard form.  The snapshot is read, decoded and
encoded before its target is opened, so where this fails no file is changed; and
where it succeeds the target has the standard form of what was there before,
also if that was in the same file.
-/
import RegionSnapshot.CommandLine.Run
import RegionSnapshot.Proofs.Exchange.Restore
import RegionSnapshot.Proofs.Resource.Rewritten

namespace RegionSnapshot

section Location

variable {roots : List String} {tree other : FileTree}
variable {location label path : String} {agent : Agent}

theorem Resolver.resolve_eq_ok_iff {r : Resource} :
    (Resolver.ofClasspath roots agent).resolve tree location = .ok r ↔
      Text.isBlank location = false ∧
        (Loader.ofClasspath roots agent).load? tree location = some r := by
  rw [ofClasspath, resolve]
  cases Text.isBlank location with
  | true => simp
  | false =>
      cases (Loader.ofClasspath roots agent).load? tree location <;>
        simp [Option.filter]

/-- A location of a file leads to the file whatever stands in the tree. -/
theorem Loader.load?_eq_file
    (h : (Loader.ofClasspath roots agent).load? tree location =
      some (.file label path)) :
    (Loader.ofClasspath roots agent).load? other location =
      some (.file label path) := by
  rw [load?] at h ⊢
  dsimp only at h ⊢
  split at h
  · cases h
  · rename_i hempty
    rw [if_neg hempty]
    split at h
    · cases h
    · split at h
      · exact h
      · split at h
        · cases h
        · split at h <;> cases h

end Location

theorem Resource.readable_eq_ok_iff {r found : Resource} {tree : FileTree} :
    r.readable tree = .ok found ↔ r.isReadable tree = true ∧ found = r := by
  rw [readable]
  cases r.isReadable tree <;> simp [eq_comm]

theorem Resource.writable_eq_ok_iff {r found : Resource} {tree : FileTree} :
    r.writable tree = .ok found ↔ r.isWritable tree = true ∧ found = r := by
  rw [writable]
  cases r.isWritable tree <;> simp [eq_comm]

namespace CommandLine

variable {s : Setting} {tree after : FileTree} {location source output : String}
variable {bytes content : Bytes} {resource target : Resource}

/-! What is read. -/

theorem Setting.resource_eq_ok_iff :
    s.resource tree location = .ok resource ↔
      s.resolver.resolve tree location = .ok resource :=
  Outcome.mapError_eq_ok_iff

theorem Setting.read_eq_ok_iff :
    s.read tree location = .ok (resource, content) ↔
      s.resource tree location = .ok resource ∧
        resource.isReadable tree = true ∧
        resource.read defaultBufferSize tree = .ok content := by
  rw [Setting.read]
  constructor
  · intro h
    obtain ⟨found, hfound, hchecked⟩ := Outcome.bind_eq_ok_iff.1 h
    obtain ⟨_, hreadable, hopened⟩ := Outcome.bind_eq_ok_iff.1 hchecked
    obtain ⟨hreadable, rfl⟩ := Resource.readable_eq_ok_iff.1
      (Outcome.mapError_eq_ok_iff.1 hreadable)
    obtain ⟨bytes, hread, hdone⟩ := Outcome.bind_eq_ok_iff.1 hopened
    cases hdone
    exact ⟨hfound, hreadable, Outcome.mapError_eq_ok_iff.1 hread⟩
  · rintro ⟨hfound, hreadable, hread⟩
    refine Outcome.bind_eq_ok_iff.2 ⟨resource, hfound, ?_⟩
    refine Outcome.bind_eq_ok_iff.2 ⟨resource, Outcome.mapError_eq_ok_iff.2
      (Resource.readable_eq_ok_iff.2 ⟨hreadable, rfl⟩), ?_⟩
    exact Outcome.bind_eq_ok_iff.2
      ⟨content, Outcome.mapError_eq_ok_iff.2 hread, rfl⟩

theorem normalForm_eq_ok_iff {entries : Nat} {elements : Json} :
    normalForm s tree location = .ok (resource, entries, elements) ↔
      ∃ content instances,
        s.read tree location = .ok (resource, content) ∧
        Snapshot.decode .standard content = .ok instances ∧
        Snapshot.renderInstances instances = .ok elements ∧
        entries = instances.length := by
  rw [normalForm, Setting.readSnapshot]
  constructor
  · intro h
    obtain ⟨⟨found, instances⟩, hsnapshot, hrendered⟩ :=
      Outcome.bind_eq_ok_iff.1 h
    obtain ⟨⟨_, content⟩, hread, hdecoded⟩ :=
      Outcome.bind_eq_ok_iff.1 hsnapshot
    obtain ⟨_, hdecode, hfound⟩ := Outcome.bind_eq_ok_iff.1 hdecoded
    cases hfound
    obtain ⟨_, hrender, hdone⟩ := Outcome.bind_eq_ok_iff.1 hrendered
    cases hdone
    exact ⟨content, instances, hread, Outcome.mapError_eq_ok_iff.1 hdecode,
      Outcome.mapError_eq_ok_iff.1 hrender, rfl⟩
  · rintro ⟨content, instances, hread, hdecode, hrender, rfl⟩
    refine Outcome.bind_eq_ok_iff.2 ⟨(resource, instances), ?_, ?_⟩
    · refine Outcome.bind_eq_ok_iff.2 ⟨(resource, content), hread, ?_⟩
      exact Outcome.bind_eq_ok_iff.2
        ⟨instances, Outcome.mapError_eq_ok_iff.2 hdecode, rfl⟩
    · exact Outcome.bind_eq_ok_iff.2
        ⟨elements, Outcome.mapError_eq_ok_iff.2 hrender, rfl⟩

/-- The bytes are the standard form of the snapshot at a location: what is read
there, decoded and encoded again. -/
def StandardForm (s : Setting) (tree : FileTree) (location : String)
    (bytes : Bytes) : Prop :=
  ∃ resource content instances,
    s.read tree location = .ok (resource, content) ∧
    Snapshot.decode .standard content = .ok instances ∧
    Snapshot.encodeInstances instances = .ok bytes

theorem standardForm_iff :
    StandardForm s tree location bytes ↔
      ∃ resource entries elements,
        normalForm s tree location = .ok (resource, entries, elements) ∧
          bytes = Snapshot.document elements := by
  simp only [normalForm_eq_ok_iff, StandardForm, Snapshot.encodeInstances,
    Outcome.map_eq_ok_iff]
  constructor
  · rintro ⟨resource, content, instances, hread, hdecode, elements, hrender,
      rfl⟩
    exact ⟨resource, _, elements,
      ⟨content, instances, hread, hdecode, hrender, rfl⟩, rfl⟩
  · rintro ⟨resource, entries, elements,
      ⟨content, instances, hread, hdecode, hrender, -⟩, rfl⟩
    exact ⟨resource, content, instances, hread, hdecode, elements, hrender, rfl⟩

/-- A standard form is an array, so it is never empty. -/
theorem StandardForm.ne_nil (h : StandardForm s tree location bytes) :
    bytes ≠ [] := by
  obtain ⟨resource, content, instances, -, -, hencode⟩ := h
  obtain ⟨document, hrender, rfl⟩ := Outcome.map_eq_ok_iff.1 hencode
  obtain ⟨elements, -, rfl⟩ := Outcome.map_eq_ok_iff.1 hrender
  exact Exchange.document_ne_nil elements

/-! What is written. -/

theorem writableResource_eq_ok_iff :
    writableResource s tree location = .ok target ↔
      s.resource tree location = .ok target ∧
        target.isWritable tree = true := by
  rw [writableResource, Outcome.bind_eq_ok_iff]
  constructor
  · rintro ⟨found, hfound, hchecked⟩
    obtain ⟨hwritable, rfl⟩ := Resource.writable_eq_ok_iff.1
      (Outcome.mapError_eq_ok_iff.1 hchecked)
    exact ⟨hfound, hwritable⟩
  · rintro ⟨hfound, hwritable⟩
    exact ⟨target, hfound, Outcome.mapError_eq_ok_iff.2
      (Resource.writable_eq_ok_iff.2 ⟨hwritable, rfl⟩)⟩

/-- What a location leads to is writable and can be opened. -/
def Setting.Opens (s : Setting) (tree : FileTree) (location : String) : Prop :=
  ∃ target place, s.resource tree location = .ok target ∧
    target.isWritable tree = true ∧ (target.openWrite tree).1 = .ok place

/-- A standard form is written to its target, or the command fails and changes
no file. -/
theorem normalize_cases (s : Setting) (tree : FileTree)
    (source output : String) :
    (∃ bytes target text after, StandardForm s tree source bytes ∧
      s.resource tree output = .ok target ∧
      target.write defaultBufferSize tree bytes = (.ok (), after) ∧
      normalize s tree source (some output) = (.ok text, after)) ∨
    ∃ failure after,
      normalize s tree source (some output) = (.error failure, after) ∧
      ¬((∃ bytes, StandardForm s tree source bytes) ∧ s.Opens tree output) ∧
      ∀ written, FileTree.Changes written tree after := by
  have hnothing : ∀ written, FileTree.Changes written tree tree :=
    fun _ => .of_spares rfl fun _ => .refl tree
  cases hform : normalForm s tree source with
  | error failure =>
      refine .inr ⟨failure, tree, by simp only [normalize, hform], ?_, hnothing⟩
      rintro ⟨⟨bytes, hbytes⟩, -⟩
      obtain ⟨resource, entries, elements, hform', -⟩ := standardForm_iff.1 hbytes
      rw [hform] at hform'
      cases hform'
  | ok found =>
      obtain ⟨resource, entries, elements⟩ := found
      have hstandard : StandardForm s tree source (Snapshot.document elements) :=
        standardForm_iff.2 ⟨resource, entries, elements, hform, rfl⟩
      cases htarget : writableResource s tree output with
      | error failure =>
          refine .inr ⟨failure, tree, by simp only [normalize, hform, htarget],
            ?_, hnothing⟩
          rintro ⟨-, target, place, hfound, hwritable, -⟩
          rw [writableResource_eq_ok_iff.2 ⟨hfound, hwritable⟩] at htarget
          cases htarget
      | ok target =>
          have hfound := (writableResource_eq_ok_iff.1 htarget).1
          rcases target.write_cases tree defaultBufferSize hstandard.ne_nil with
            ⟨place, opened, -, -, hwrite⟩ | ⟨cause, after, hwrite, hnot, hchange⟩
          · exact .inl ⟨_, target, _, _, hstandard, hfound, hwrite,
              by simp only [normalize, hform, htarget, hwrite]; rfl⟩
          · refine .inr ⟨_, after,
              by simp only [normalize, hform, htarget, hwrite]; rfl, ?_, hchange⟩
            rintro ⟨-, other, place, hother, hopens⟩
            rw [hfound] at hother
            cases hother
            exact hnot ⟨hopens.1, place, hopens.2⟩

/-- What was written to a file is read from its location, if the file may be
read. -/
theorem Setting.read_of_hasFile {label path : String}
    (hfound : s.resource tree location = .ok (.file label path))
    {place : Place} {access : Access}
    (hfile : after.HasFile (.ofText path) place bytes access)
    (hread : access.read = true) :
    s.read after location = .ok (.file label path, bytes) := by
  refine Setting.read_eq_ok_iff.2 ⟨?_, ?_, ?_⟩
  · rw [Setting.resource_eq_ok_iff, Setting.resolver,
      Resolver.resolve_eq_ok_iff] at hfound ⊢
    exact ⟨hfound.1, Loader.load?_eq_file hfound.2⟩
  · rw [Resource.isReadable_of_path? rfl, hfile.isReadable, hread]
  · rw [Resource.read_of_hasFile rfl hfile, hread]
    rfl

/-- The command succeeds just if the snapshot has a standard form and the output
can be opened.  Then the output holds the standard form of what was there
before, also where source and output are one file, and shows it where it may be
read; all other files are as they were.  Where the command fails, all files
are. -/
theorem normalize_exact (s : Setting) (tree : FileTree)
    (source output : String) :
    ((∃ text after,
        normalize s tree source (some output) = (.ok text, after)) ↔
      (∃ bytes, StandardForm s tree source bytes) ∧ s.Opens tree output) ∧
    (∀ text after, normalize s tree source (some output) = (.ok text, after) →
      ∃ bytes label path place, StandardForm s tree source bytes ∧
        s.resource tree output = .ok (.file label path) ∧
        ((Resource.file label path).openWrite tree).1 = .ok place ∧
        (tree.ReadableAt place →
          s.read after output = .ok (.file label path, bytes)) ∧
        after.HasFile (.ofText path) place bytes (tree.accessAt place) ∧
        FileTree.SameFiles (fun other => other = place) tree after) ∧
    ∀ failure after,
      normalize s tree source (some output) = (.error failure, after) →
        FileTree.SameFiles (fun _ => False) tree after := by
  rcases normalize_cases s tree source output with
    ⟨bytes, target, text, after, hbytes, hfound, hwrite, hdone⟩ |
    ⟨failure, after, hdone, hnot, hchange⟩
  · have hopens : s.Opens tree output := by
      obtain ⟨hwritable, place, hopen⟩ :=
        (target.write_isOk_iff tree _ hbytes.ne_nil).1 ⟨after, hwrite⟩
      exact ⟨target, place, hfound, hwritable, hopen⟩
    rw [hdone]
    refine ⟨⟨fun _ => ⟨⟨bytes, hbytes⟩, hopens⟩, fun _ => ⟨text, after, rfl⟩⟩,
      ?_, by rintro failure other ⟨⟩⟩
    rintro text other ⟨⟩
    obtain ⟨label, path, place, rfl, hopen, hfile, hchange⟩ :=
      Resource.exists_of_write hbytes.ne_nil hwrite
    exact ⟨bytes, label, path, place, hbytes, hfound, hopen,
      Setting.read_of_hasFile hfound hfile, hfile, hchange.sameFiles⟩
  · rw [hdone]
    refine ⟨⟨?_, fun h => absurd h hnot⟩, by rintro text other ⟨⟩, ?_⟩
    · rintro ⟨text, other, ⟨⟩⟩
    · rintro failure other ⟨⟩
      exact (hchange _).sameFiles

/-- A snapshot of one instance, its members out of order. -/
def looseNotes : Bytes :=
  Utf8.encode "\x7b\"b\": true, \"a\": []\x7d"

/-- The standard form of `looseNotes`. -/
def tidyNotes : Bytes :=
  Utf8.encode "[\n  \x7b\n    \"a\": [],\n    \"b\": true\n  \x7d\n]"

/-- The snapshot and another file on the classpath. -/
def notesTree : FileTree :=
  ((FileTree.bare []).plant ["data", "notes.json"]
    (.file looseNotes .full)).plant ["data", "other.json"] (.file [9] .full)

/-- A command with the classpath `/data`. -/
def notesSetting : Setting :=
  ⟨Environment.empty.withProperty Settings.classpathProperty "/data", false,
    "/", .offline⟩

/-- A snapshot is written over itself by another spelling of its location. -/
theorem normalize_exact_in_place :
    ∃ text after,
      normalize notesSetting notesTree "classpath:notes.json"
          (some "file:/data/../data/notes.json") = (.ok text, after) ∧
        after.node? ["data", "notes.json"] = some (.file tidyNotes .full) ∧
        after.node? ["data", "other.json"] = some (.file [9] .full) := by
  obtain ⟨hsucceeds, hwritten, -⟩ := normalize_exact notesSetting notesTree
    "classpath:notes.json" "file:/data/../data/notes.json"
  have hread : notesSetting.read notesTree "classpath:notes.json" =
      .ok (.classpath "classpath:notes.json" "notes.json"
        (some "/data/notes.json"), looseNotes) := by rfl
  have hdecode : Snapshot.decode .standard looseNotes =
      .ok [.mk noClassName none [("a", .array []), ("b", .bool true)] none] := by
    rfl
  have htarget : notesSetting.resource notesTree
        "file:/data/../data/notes.json" =
      .ok (.file "file:/data/../data/notes.json" "/data/../data/notes.json") := by
    rfl
  have hopen : ((Resource.file "file:/data/../data/notes.json"
      "/data/../data/notes.json").openWrite notesTree).1 =
        .ok ["data", "notes.json"] := by rfl
  obtain ⟨text, after, hdone⟩ := hsucceeds.2
    ⟨⟨tidyNotes, _, _, _, hread, hdecode, by rfl⟩, _, _, htarget, by rfl, hopen⟩
  obtain ⟨bytes, label, path, place, ⟨_, _, _, hread', hdecode', hencode⟩,
    hfound, hopened, -, hfile, hsame⟩ := hwritten text after hdone
  cases hread.symm.trans hread'
  cases hdecode.symm.trans hdecode'
  cases htarget.symm.trans hfound
  cases hopen.symm.trans hopened
  obtain rfl : tidyNotes = bytes := Except.ok.inj hencode
  exact ⟨text, after, hdone, hfile.node,
    (hsame ["data", "other.json"] (by decide) [9] .full).1 (by rfl)⟩

end CommandLine
end RegionSnapshot
