/-
Snapshots in files.  An exchange keeps the snapshot of a region in a file if
both its export and its import lead to that file.  Which file this is does not
change as long as the same files stand; exporting the region changes the file
and no other, and importing it finds what was written.
-/
import RegionSnapshot.Proofs.Exchange.Restore
import RegionSnapshot.Proofs.Resource.Files

namespace RegionSnapshot

variable {α : Type}

theorem RegionResolver.resolve_eq {first second : FileTree}
    (h : first.SameShape second) (region : RegionId)
    (resolver : RegionResolver) :
    resolver.resolve first region = resolver.resolve second region := by
  cases resolver <;>
    simp only [resolve, checkImport, Resolver.resolve_eq h,
      Resource.isThere_eq h, Resource.isReadable_eq h]

namespace Exchange

/-- The snapshot of a region is kept in the file at `place`, which may be read
and written: exporting and importing the region both lead there. -/
structure KeepsAt (x : Exchange α) (tree : FileTree) (region : RegionId)
    (place : Place) : Prop where
  exported : ∃ location path content,
    x.exportTo.resolve tree region = .ok (some (.file location path)) ∧
    tree.HasFile (.ofText path) place content .full
  imported : ∃ resource path content,
    x.importFrom.resolve tree region = .ok (some resource) ∧
    resource.path? = some path ∧ tree.HasFile path place content .full

namespace KeepsAt

variable {x : Exchange α} {tree : FileTree} {place : Place}

theorem of_sameShape {other : FileTree} {region : RegionId}
    (h : x.KeepsAt tree region place) (hshape : tree.SameShape other) :
    x.KeepsAt other region place := by
  obtain ⟨location, path, content, hresolve, hfile⟩ := h.exported
  obtain ⟨resource, path', content', hresolve', hpath, hfile'⟩ := h.imported
  obtain ⟨bytes, hbytes⟩ := hshape.exists_hasFile hfile
  obtain ⟨bytes', hbytes'⟩ := hshape.exists_hasFile hfile'
  rw [RegionResolver.resolve_eq hshape] at hresolve hresolve'
  exact ⟨⟨location, path, bytes, hresolve, hbytes⟩,
    ⟨resource, path', bytes', hresolve', hpath, hbytes'⟩⟩

/-- There is only one such place. -/
theorem unique {other : Place} {region : RegionId}
    (h : x.KeepsAt tree region place) (h' : x.KeepsAt tree region other) :
    place = other := by
  obtain ⟨location, path, content, hresolve, hfile⟩ := h.exported
  obtain ⟨location', path', content', hresolve', hfile'⟩ := h'.exported
  rw [hresolve] at hresolve'
  cases hresolve'
  have hlocate : tree.locate (.ofText path) =
      .ok (place, .file content .full) := hfile
  have hlocate' : tree.locate (.ofText path) =
      .ok (other, .file content' .full) := hfile'
  rw [hlocate] at hlocate'
  cases hlocate'
  rfl

/-- What an export writes goes to the resource of the region, replaces the
content of the file and changes no other file. -/
theorem exists_written {region : RegionId} {bytes : Bytes}
    (h : x.KeepsAt tree region place) (hgrounded : tree.Grounded)
    (hwriter : ∃ size, x.writer = .buffered size) (hbytes : bytes ≠ []) :
    ∃ resource after, x.exportTo.resolve tree region = .ok (some resource) ∧
      x.writer.accepts tree resource = true ∧
      x.writer.write tree resource bytes = (.ok (), after) ∧
      after.SameShape tree ∧ after.node? place = some (.file bytes .full) ∧
      ∀ other, other ≠ place → after.node? other = tree.node? other := by
  obtain ⟨size, hsize⟩ := hwriter
  obtain ⟨location, path, content, hresolve, hfile⟩ := h.exported
  obtain ⟨after, hwrite, hchange⟩ :=
    Resource.exists_write hgrounded hfile rfl hbytes size location
  rw [hsize]
  exact ⟨_, after, hresolve, hfile.isWritable rfl, hwrite, hchange⟩

/-- An export changes no file but the one in which the snapshot is kept. -/
theorem exportNow_frame {region : Region α}
    (h : x.KeepsAt tree region.id place) (hgrounded : tree.Grounded)
    (hwriter : ∃ size, x.writer = .buffered size) :
    (x.exportNow tree region).2.SameShape tree ∧
      ∀ other, other ≠ place →
        (x.exportNow tree region).2.node? other = tree.node? other := by
  cases hencode : Snapshot.encodeEntries region.entries with
  | error cause =>
      obtain ⟨location, path, content, hresolve, -⟩ := h.exported
      rw [exportNow, hresolve]
      simp only [hencode]
      split <;> exact ⟨.refl tree, fun _ _ => rfl⟩
  | ok bytes =>
      obtain ⟨resource, after, hresolve, haccepts, hwrite, hshape, -, hframe⟩ :=
        h.exists_written hgrounded hwriter (ne_nil_of_encodeEntries hencode)
      rw [exportNow, hresolve]
      simp only [haccepts, hencode, hwrite]
      exact ⟨hshape, hframe⟩

theorem exportFrom_frame {region : Region α}
    (h : x.KeepsAt tree region.id place) (hgrounded : tree.Grounded)
    (hwriter : ∃ size, x.writer = .buffered size) :
    (x.exportFrom tree region).2.SameShape tree ∧
      ∀ other, other ≠ place →
        (x.exportFrom tree region).2.node? other = tree.node? other := by
  rw [exportFrom]
  split
  · exact h.exportNow_frame hgrounded hwriter
  · exact ⟨.refl tree, fun _ _ => rfl⟩

/-- An export of entries that can be written puts their document into the
file. -/
theorem exportNow_node {region : Region α} {bytes : Bytes}
    (h : x.KeepsAt tree region.id place) (hgrounded : tree.Grounded)
    (hwriter : ∃ size, x.writer = .buffered size)
    (hencode : Snapshot.encodeEntries region.entries = .ok bytes) :
    x.Wrote tree region bytes ∧
      (x.exportNow tree region).2.node? place = some (.file bytes .full) := by
  obtain ⟨resource, after, hresolve, haccepts, hwrite, -, hnode, -⟩ :=
    h.exists_written hgrounded hwriter (ne_nil_of_encodeEntries hencode)
  refine ⟨⟨hencode, resource, hresolve, haccepts, by rw [hwrite]⟩, ?_⟩
  rw [exportNow, hresolve]
  simp only [haccepts, hencode, hwrite]
  exact hnode

/-- An import of an empty region finds what is in the file. -/
theorem finds {region : Region α} {bytes : Bytes}
    (h : x.KeepsAt tree region.id place)
    (hnode : tree.node? place = some (.file bytes .full))
    (hempty : region.entries = []) : x.Finds tree region bytes := by
  obtain ⟨resource, path, content, hresolve, hpath, hfile⟩ := h.imported
  have heq := hfile.node.symm.trans hnode
  simp only [Option.some.injEq, FileNode.file.injEq, and_true] at heq
  subst heq
  exact ⟨hempty, resource, hresolve,
    Resource.read_of_hasFile hpath hfile x.readSize⟩

/-- What an export wrote is what an import finds. -/
theorem finds_exportNow {region : Region α} {bytes : Bytes}
    (h : x.KeepsAt tree region.id place) (hgrounded : tree.Grounded)
    (hwriter : ∃ size, x.writer = .buffered size)
    (hencode : Snapshot.encodeEntries region.entries = .ok bytes) :
    x.Finds (x.exportNow tree region).2 (.empty region.id) bytes := by
  obtain ⟨-, hnode⟩ := h.exportNow_node hgrounded hwriter hencode
  have hshape := (h.exportNow_frame hgrounded hwriter).1
  have hkept : x.KeepsAt (x.exportNow tree region).2
      (Region.empty region.id : Region α).id place :=
    h.of_sameShape hshape.symm
  exact hkept.finds hnode rfl

end KeepsAt

/-- There is no snapshot to import a region from: it has no resource, or one
that cannot be opened. -/
def Lacks (x : Exchange α) (tree : FileTree) (region : RegionId) : Prop :=
  (∃ error, x.importFrom.resolve tree region = .error error) ∨
    ∃ resource error, x.importFrom.resolve tree region = .ok (some resource) ∧
      resource.openRead tree = .error error

namespace Lacks

variable {x : Exchange α} {tree : FileTree}

theorem of_sameShape {other : FileTree} {region : RegionId}
    (h : x.Lacks tree region) (hshape : tree.SameShape other) :
    x.Lacks other region := by
  rw [Lacks, ← RegionResolver.resolve_eq hshape]
  rcases h with hfailed | ⟨resource, error, hresolve, hopen⟩
  · exact .inl hfailed
  · obtain ⟨error', hopen'⟩ := Resource.exists_openRead_error hshape hopen
    exact .inr ⟨resource, error', hresolve, hopen'⟩

/-- Without a snapshot the import of an empty region fails. -/
theorem importInto {region : Region α} (h : x.Lacks tree region.id)
    (hselected : x.gate.shouldImport region = true)
    (hempty : region.entries = []) :
    ∃ error, x.importInto tree region = (.error error, region) := by
  have hisEmpty : region.isEmpty = true := by
    rw [Region.isEmpty, hempty]
    rfl
  rw [Exchange.importInto, if_pos hselected, importNow, hisEmpty]
  rcases h with ⟨error, hresolve⟩ | ⟨resource, error, hresolve, hopen⟩
  · rw [hresolve]
    exact ⟨_, rfl⟩
  · rw [hresolve]
    dsimp only
    rw [Resource.read, hopen]
    exact ⟨_, rfl⟩

end Lacks

/-- An import leaves the region as it is or puts entries into it. -/
theorem exists_importInto (x : Exchange α) (tree : FileTree)
    (region : Region α) :
    ∃ entries, (x.importInto tree region).2 = region.putAll entries := by
  have hunchanged : ∃ entries, region = region.putAll entries := ⟨[], rfl⟩
  rw [importInto]
  split
  · rw [importNow]
    split
    · exact hunchanged
    · split
      · exact hunchanged
      · exact hunchanged
      · split
        · exact hunchanged
        · split
          · exact hunchanged
          · exact ⟨_, rfl⟩
  · exact hunchanged

/-- Whatever an export wrote, an import that finds it restores all keys of the
region if the entries can be restored, and else fails without any entry. -/
theorem importNow_of_wrote {x y : Exchange α} {tree after : FileTree}
    {region target : Region α} {bytes : Bytes}
    (hordered : ∀ entry ∈ region.entries, entry.2.Ordered)
    (hregistry : y.registry = x.registry) (hwrote : x.Wrote tree region bytes)
    (hfinds : y.Finds after target bytes) :
    (Restorable x.registry region.entries →
      ∃ restored, y.importNow after target = (.ok region.size, restored) ∧
        ∀ key, Entries.has key restored.entries =
          Entries.has key region.entries) ∧
    (¬Restorable x.registry region.entries →
      ∃ error, y.importNow after target = (.error error, target)) := by
  rw [← hregistry]
  exact ⟨hfinds.exists_restored hordered hwrote.encoded,
    hfinds.exists_error hordered hwrote.encoded⟩

/-- Both directions are on, and regions are kept in files below `/data`. -/
def dataExchange : Exchange Datum :=
  let environment :=
    Environment.empty.withProperty Settings.importEnabledProperty "true"
  let importRule : LocationRule :=
    { LocationRule.importing (some environment) [] with path := "file:///data" }
  { Exchange.ofEnvironment (some environment) [] "/data"
      .offline Snapshot.treeRegistry with
    importFrom := .importing importRule (importRule.resolver .offline) }

/-- Blank snapshots of two regions. -/
def dataTree : FileTree :=
  ((FileTree.bare []).plant ["data", "trees.json"] (.file [] .full)).plant
    ["data", "notes.json"] (.file [] .full)

theorem dataTree_grounded : dataTree.Grounded :=
  FileTree.grounded_of_nodes (by decide)

theorem dataExchange_keepsTrees : dataExchange.KeepsAt dataTree
    (.root "Trees") ["data", "trees.json"] :=
  ⟨⟨"file:///data/trees.json", "/data/trees.json", [], by rfl, by rfl⟩,
    ⟨.file "file:///data/trees.json" "/data/trees.json", _, [], by rfl, rfl,
      by rfl⟩⟩

def treesRegion : Region Datum :=
  ⟨.root "Trees", Snapshot.treeEntries.map
    (fun entry => (entry.1, .object entry.2))⟩

theorem treesRegion_faithful : ∀ entry ∈ treesRegion.entries, ∃ object,
    entry.2 = .object object ∧
      object.Faithful Snapshot.treeRegistry := by
  intro entry hentry
  obtain ⟨given, hgiven, rfl⟩ := List.mem_map.1 hentry
  exact ⟨given.2, rfl, Snapshot.treeEntries_faithful given hgiven⟩

theorem importNow_of_wrote_trees :
    ∃ bytes, (∀ entry ∈ treesRegion.entries, entry.2.Ordered) ∧
      dataExchange.Wrote dataTree treesRegion bytes ∧
      dataExchange.Finds (dataExchange.exportNow dataTree treesRegion).2
        (.empty (.root "Trees")) bytes ∧
      ∃ restored,
        dataExchange.importNow (dataExchange.exportNow dataTree treesRegion).2
            (.empty (.root "Trees")) = (.ok 2, restored) ∧
          ∀ key, Entries.has key restored.entries =
            Entries.has key treesRegion.entries := by
  obtain ⟨bytes, hencode⟩ :
      ∃ bytes, Snapshot.encodeEntries treesRegion.entries = .ok bytes :=
    ⟨_, by rfl⟩
  have hordered : ∀ entry ∈ treesRegion.entries, entry.2.Ordered := by
    rintro ⟨key, value⟩ hentry
    obtain ⟨object, rfl, hobject⟩ := treesRegion_faithful _ hentry
    exact hobject.ordered
  have hwrote : dataExchange.Wrote dataTree treesRegion bytes :=
    (dataExchange_keepsTrees.exportNow_node dataTree_grounded ⟨_, rfl⟩
      hencode).1
  have hfinds : dataExchange.Finds
      (dataExchange.exportNow dataTree treesRegion).2 (.empty (.root "Trees"))
      bytes :=
    dataExchange_keepsTrees.finds_exportNow dataTree_grounded ⟨_, rfl⟩ hencode
  exact ⟨bytes, hordered, hwrote, hfinds,
    (importNow_of_wrote hordered rfl hwrote hfinds).1
      (restorable_of_faithful _ treesRegion_faithful Snapshot.treeEntries_fit)⟩

theorem dataExchange_keepsNotes : dataExchange.KeepsAt dataTree
    (.root "Notes") ["data", "notes.json"] :=
  ⟨⟨"file:///data/notes.json", "/data/notes.json", [], by rfl, by rfl⟩,
    ⟨.file "file:///data/notes.json" "/data/notes.json", _, [], by rfl, rfl,
      by rfl⟩⟩

/-- A region with one object, whose type is not registered and whose form has
an array in an array. -/
def rowsRegion : Region Datum :=
  ⟨.root "Trees", [(.int 1, .object ⟨.ofSchema "app::Rows" .json,
    .json (.obj [("rows", .arr [.arr []])])⟩)]⟩

/-- Nothing of it is read otherwise than it was written, and no instance holds
its element. -/
theorem rowsRegion_lost :
    ¬Restorable Snapshot.treeRegistry rowsRegion.entries := by
  rintro ⟨elements, read, hrender, hread, hall⟩
  have hrender' : Snapshot.renderEntries rowsRegion.entries =
      .ok (.arr [.obj [("@identifier", .ofInt64 1), ("@type", .str "app::Rows"),
        ("rows", .arr [.arr []])]]) := by
    rfl
  rw [hrender'] at hrender
  cases hrender
  have hread' : Snapshot.rereadElements? [.obj [("@identifier", .ofInt64 1),
      ("@type", .str "app::Rows"), ("rows", .arr [.arr []])]] =
        some [.obj [("@identifier", .ofInt64 1), ("@type", .str "app::Rows"),
          ("rows", .arr [.arr []])]] :=
    Json.rereadItems?_eq_some (by decide) (by
      simp [Json.NumbersReadBack, Json.NumbersReadBackItems,
        Json.NumbersReadBackMembers, Json.ofInt64, Number.reread?_int])
  rw [hread'] at hread
  cases hread
  rcases hall _ List.mem_cons_self with
    ⟨hnative, -⟩ | ⟨hnative, -, -, -, -⟩ | ⟨-, hnamed, hfound, -, -⟩
  · cases hnative
  · cases hnative
  · cases hnamed
    cases hfound

/-- An export that succeeds can write what no import accepts. -/
theorem importNow_rows_fails :
    ∃ bytes, (∀ entry ∈ rowsRegion.entries, entry.2.Ordered) ∧
      dataExchange.Wrote dataTree rowsRegion bytes ∧
      (dataExchange.exportNow dataTree rowsRegion).1 = .ok 1 ∧
      dataExchange.Finds (dataExchange.exportNow dataTree rowsRegion).2
        (.empty (.root "Trees")) bytes ∧
      ∃ error,
        dataExchange.importNow (dataExchange.exportNow dataTree rowsRegion).2
          (.empty (.root "Trees")) = (.error error, .empty (.root "Trees")) := by
  obtain ⟨bytes, hencode⟩ :
      ∃ bytes, Snapshot.encodeEntries rowsRegion.entries = .ok bytes :=
    ⟨_, by rfl⟩
  have hordered : ∀ entry ∈ rowsRegion.entries, entry.2.Ordered := by
    intro entry hentry
    rw [List.mem_singleton.1 hentry]
    intro json hjson
    cases hjson
    simp [Datum.toJson, Json.Ordered, Json.OrderedMembers, Json.OrderedItems,
      Entries.Sorted]
  have hwrote : dataExchange.Wrote dataTree rowsRegion bytes :=
    (dataExchange_keepsTrees.exportNow_node dataTree_grounded ⟨_, rfl⟩
      hencode).1
  have hfinds : dataExchange.Finds
      (dataExchange.exportNow dataTree rowsRegion).2 (.empty (.root "Trees"))
      bytes :=
    dataExchange_keepsTrees.finds_exportNow dataTree_grounded ⟨_, rfl⟩ hencode
  exact ⟨bytes, hordered, hwrote, hwrote.exportNow, hfinds,
    hfinds.exists_error hordered hencode rowsRegion_lost⟩

end Exchange
end RegionSnapshot
