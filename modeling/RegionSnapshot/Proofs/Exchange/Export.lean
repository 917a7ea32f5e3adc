/-
What an export leaves behind.  The target is found, tested and all entries are
converted before the target is opened, so an export that fails before that
leaves every file as it was; one that writes leaves the document of all entries
in its target, and counts them.
-/
import RegionSnapshot.Cache
import RegionSnapshot.Proofs.Exchange.Save
import RegionSnapshot.Proofs.Resource.Rewritten

namespace RegionSnapshot

variable {α : Type}

namespace Snapshot

/-- The entry at `place` is the first one that cannot be converted. -/
structure FirstFault (entries : List (Key × Value α)) (place : Nat)
    (entry : Key × Value α) (cause : ConversionError) : Prop where
  placed : entries[place]? = some entry
  fails : renderEntry entry = .error cause
  converted : ∀ before ∈ entries.take place,
    ∃ element, renderEntry before = .ok element

/-- Entries are not encoded just if one of them cannot be converted. -/
theorem encodeEntries_eq_error_iff {entries : List (Key × Value α)}
    {cause : ConversionError} :
    encodeEntries entries = .error cause ↔
      ∃ place entry, FirstFault entries place entry cause := by
  have hmapM : encodeEntries entries = .error cause ↔
      entries.mapM renderEntry = .error cause := by
    rw [encodeEntries, renderEntries]
    cases entries.mapM renderEntry <;> simp [Except.map]
  rw [hmapM, Outcome.mapM_eq_error_iff]
  constructor
  · rintro ⟨place, entry, hplaced, hfails, hconverted⟩
    exact ⟨place, entry, hplaced, hfails, hconverted⟩
  · rintro ⟨place, entry, hplaced, hfails, hconverted⟩
    exact ⟨place, entry, hplaced, hfails, hconverted⟩

/-- One entry that cannot be converted keeps all of them from being encoded. -/
theorem exists_firstFault {entries : List (Key × Value α)}
    (h : ∃ entry ∈ entries, ∀ element, renderEntry entry ≠ .ok element) :
    ∃ place entry cause, FirstFault entries place entry cause ∧
      encodeEntries entries = .error cause := by
  cases hencode : encodeEntries entries with
  | error cause =>
      obtain ⟨place, entry, hfault⟩ := encodeEntries_eq_error_iff.1 hencode
      exact ⟨place, entry, cause, hfault, rfl⟩
  | ok bytes =>
      obtain ⟨entry, hentry, hfails⟩ := h
      obtain ⟨document, hdocument, -⟩ := Outcome.map_eq_ok_iff.1 hencode
      obtain ⟨elements, helements, -⟩ := Outcome.map_eq_ok_iff.1 hdocument
      obtain ⟨element, -, helement⟩ :=
        Outcome.exists_of_mem_mapM helements hentry
      exact absurd helement (hfails element)

end Snapshot

/-- Bytes that a writer put into a resource which it takes on are what stands in
the file of the resource. -/
theorem Writer.exists_hasFile {writer : Writer} {tree after : FileTree}
    {resource : Resource} {bytes : Bytes}
    (haccepts : writer.accepts tree resource = true) (hbytes : bytes ≠ [])
    (h : writer.write tree resource bytes = (.ok (), after)) :
    ∃ path place, resource.path? = some path ∧
      after.HasFile path place bytes (tree.accessAt place) := by
  cases writer with
  | refusing => cases haccepts
  | failing cause => cases h
  | buffered size =>
      rw [write, Resource.write_of_isWritable size hbytes haccepts] at h
      rcases hopen : resource.openWrite tree with ⟨cause | place, opened⟩
      · rw [hopen] at h
        cases h
      · rw [hopen] at h
        cases h
        obtain ⟨path, hpath, hfile⟩ :=
          Resource.exists_hasFile_of_openWrite hopen bytes
        exact ⟨path, place, hpath, hfile⟩

namespace Exchange

variable {x : Exchange α} {tree : FileTree} {region : Region α}
variable {resource : Resource}

/-- An export to a target that succeeds leaves the document of all entries in
the file of the target. -/
theorem Targets.exists_hasFile (h : x.Targets tree region.id resource)
    {count : Nat} (hcount : (x.exportNow tree region).1 = .ok count) :
    count = region.size ∧ ∃ bytes path place,
      Snapshot.encodeEntries region.entries = .ok bytes ∧
      resource.path? = some path ∧
      (x.exportNow tree region).2.HasFile path place bytes
        (tree.accessAt place) := by
  obtain ⟨hsize, bytes, after, hencode, hwrite, hafter⟩ :=
    h.exists_written hcount
  obtain ⟨path, place, hpath, hfile⟩ := Writer.exists_hasFile h.accepted
    (ne_nil_of_encodeEntries hencode) hwrite
  exact ⟨hsize, bytes, path, place, hencode, hpath, hafter ▸ hfile⟩

/-- An export to a target that fails leaves all files as they were unless all
entries were converted and the writing failed. -/
theorem Targets.exportNow_of_error (h : x.Targets tree region.id resource)
    {error : ExchangeError} (herror : (x.exportNow tree region).1 = .error error) :
    (x.exportNow tree region).2 = tree ∨ ∃ bytes cause,
      Snapshot.encodeEntries region.entries = .ok bytes ∧
      error = .resource cause ∧ x.writer.write tree resource bytes =
        (.error cause, (x.exportNow tree region).2) := by
  rw [h.exportNow] at herror ⊢
  cases hencode : Snapshot.encodeEntries region.entries with
  | error cause => exact .inl rfl
  | ok bytes =>
      rw [hencode] at herror
      rcases hwrite : x.writer.write tree resource bytes with
        ⟨cause | done, after⟩
      · simp only [hwrite] at herror
        simp only [hwrite]
        exact .inr ⟨bytes, cause, rfl, (Except.error.inj herror).symm, hwrite⟩
      · simp only [hwrite] at herror
        cases herror

/-- An export that fails leaves the old snapshot alone.  It fails where the
resource is not found, and writes nothing where there is none or it is not
taken on; with a target it fails with the first entry that cannot be converted.
In all these cases every file stays as it was.  An export that succeeds left its
target alone, or the document of all entries in it.  The region itself is not
changed in any case. -/
theorem exportNow_exact (x : Exchange α) (tree : FileTree)
    (region : Region α) :
    (∀ regions, (Listener.ofExchange x).hear .destroying regions region tree =
      (.ok (), region, (x.exportFrom tree region).2)) ∧
    (∀ error, x.exportTo.resolve tree region.id = .error error →
      x.exportNow tree region = (.error error, tree)) ∧
    (∀ found, x.exportTo.resolve tree region.id = .ok found →
      (∀ resource, ¬x.Targets tree region.id resource) →
      x.exportNow tree region = (.ok 0, tree)) ∧
    (∀ resource, x.Targets tree region.id resource →
      (∃ entry ∈ region.entries, ∀ element,
        Snapshot.renderEntry entry ≠ .ok element) →
      ∃ place entry cause,
        Snapshot.FirstFault region.entries place entry cause ∧
        x.exportNow tree region = (.error (.conversion cause), tree)) ∧
    (∀ count, (x.exportNow tree region).1 = .ok count →
      x.exportNow tree region = (.ok 0, tree) ∧
        (∀ resource, ¬x.Targets tree region.id resource) ∨
      ∃ resource bytes path place, x.Targets tree region.id resource ∧
        count = region.size ∧
        Snapshot.encodeEntries region.entries = .ok bytes ∧
        resource.path? = some path ∧
        (x.exportNow tree region).2.HasFile path place bytes
          (tree.accessAt place)) ∧
    (∀ error, (x.exportNow tree region).1 = .error error →
      (x.exportNow tree region).2 = tree ∨
      ∃ resource bytes cause, x.Targets tree region.id resource ∧
        Snapshot.encodeEntries region.entries = .ok bytes ∧
        error = .resource cause ∧ x.writer.write tree resource bytes =
          (.error cause, (x.exportNow tree region).2)) := by
  refine ⟨fun _ => rfl, fun _ => exportNow_of_unresolved,
    fun _ => exportNow_of_untargeted, ?_, ?_, ?_⟩
  · intro resource htarget hfails
    obtain ⟨place, entry, cause, hfault, hencode⟩ :=
      Snapshot.exists_firstFault hfails
    refine ⟨place, entry, cause, hfault, ?_⟩
    rw [htarget.exportNow, hencode]
  · intro count hcount
    rcases exportNow_cases x tree region with
      ⟨error, herror⟩ | ⟨found, hfound, hnone⟩ | ⟨resource, htarget⟩
    · rw [exportNow_of_unresolved herror] at hcount
      cases hcount
    · exact .inl ⟨exportNow_of_untargeted hfound hnone, hnone⟩
    · obtain ⟨hsize, bytes, path, place, hencode, hpath, hfile⟩ :=
        htarget.exists_hasFile hcount
      exact .inr ⟨resource, bytes, path, place, htarget, hsize, hencode, hpath,
        hfile⟩
  · intro error herror
    rcases exportNow_cases x tree region with
      ⟨other, hother⟩ | ⟨found, hfound, hnone⟩ | ⟨resource, htarget⟩
    · exact .inl (by rw [exportNow_of_unresolved hother])
    · exact .inl (by rw [exportNow_of_untargeted hfound hnone])
    · rcases htarget.exportNow_of_error herror with
        hsame | ⟨bytes, cause, hencode, hcause, hwrite⟩
      · exact .inl hsame
      · exact .inr ⟨resource, bytes, cause, htarget, hencode, hcause, hwrite⟩

/-- A type of objects that cannot be written. -/
def handleType : ObjectType Datum :=
  ⟨"app::Handle", fun given => .ok (.json given),
    fun _ => .error "cannot serialize"⟩

/-- Two objects that can be converted, and a last one that cannot. -/
def handlesRegion : Region Datum :=
  ⟨.root "Trees", treesRegion.entries ++
    [(.str "tail", .object ⟨handleType, .json .null⟩)]⟩

theorem dataExchange_targetsTrees : dataExchange.Targets dataTree
    (.root "Trees") (.file "file:///data/trees.json" "/data/trees.json") :=
  ⟨by rfl, by rfl⟩

/-- The last object keeps the file as it was; without it the file gets the
document. -/
theorem exportNow_exact_handles :
    (∃ cause, dataExchange.exportNow dataTree handlesRegion =
      (.error (.conversion cause), dataTree)) ∧
    ∃ bytes path place,
      Snapshot.encodeEntries treesRegion.entries = .ok bytes ∧
      (dataExchange.exportNow dataTree treesRegion).1 = .ok 2 ∧
      (dataExchange.exportNow dataTree treesRegion).2.HasFile path place
        bytes (dataTree.accessAt place) := by
  obtain ⟨-, -, -, hfails, -, -⟩ :=
    exportNow_exact dataExchange dataTree handlesRegion
  obtain ⟨-, -, -, -, hwritten, -⟩ :=
    exportNow_exact dataExchange dataTree treesRegion
  obtain ⟨bytes, hencode⟩ :
      ∃ bytes, Snapshot.encodeEntries treesRegion.entries = .ok bytes :=
    ⟨_, by rfl⟩
  have hcount : (dataExchange.exportNow dataTree treesRegion).1 = .ok 2 :=
    (dataExchange_keepsTrees.exportNow_node dataTree_grounded ⟨_, rfl⟩
      hencode).1.exportNow
  have hunwritable : ∃ entry ∈ handlesRegion.entries, ∀ element,
      Snapshot.renderEntry entry ≠ .ok element := by
    refine ⟨_, List.mem_append_right _ List.mem_cons_self, ?_⟩
    intro element h
    cases h
  constructor
  · obtain ⟨-, -, cause, -, hunchanged⟩ :=
      hfails _ dataExchange_targetsTrees hunwritable
    exact ⟨cause, hunchanged⟩
  · rcases hwritten 2 hcount with
      ⟨-, hnone⟩ | ⟨_, bytes, path, place, -, -, hencode, -, hfile⟩
    · exact absurd dataExchange_targetsTrees (hnone _)
    · exact ⟨bytes, path, place, hencode, hcount, hfile⟩

end Exchange
end RegionSnapshot
