/-
Runs of a cache whose regions are kept in files.  A run creates and destroys
regions and changes their entries.  Each step leaves the files standing as they
were and touches the content of one file at most, that of the region which is
destroyed; so what a region held when it was destroyed is what it holds when it
is created again, whatever happens in between.
-/
import RegionSnapshot.Proofs.Cache.Regions
import RegionSnapshot.Proofs.Exchange.Save

namespace RegionSnapshot
namespace Cache

variable {α σ : Type}

/-- A call that changes a cache or one of its regions. -/
inductive Call (α : Type)
  | create (name : String)
  | destroy (name : String)
  | put (name : String) (key : Key) (value : Value α)
  | remove (name : String) (key : Key)
  | clear (name : String)

/-- The region that a call is about. -/
def Call.name : Call α → String
  | .create name => name
  | .destroy name => name
  | .put name _ _ => name
  | .remove name _ => name
  | .clear name => name

/-- A cache and the world around it after a call. -/
def step (state : Cache α σ × σ) : Call α → Cache α σ × σ
  | .create name => (state.1.create name state.2).2
  | .destroy name => (state.1.destroy name state.2).2
  | .put name key value =>
      (state.1.update name (fun region => region.put key value), state.2)
  | .remove name key =>
      (state.1.update name (fun region => region.remove key), state.2)
  | .clear name => (state.1.update name Region.clear, state.2)

/-- A cache and the world around it after calls. -/
def run (state : Cache α σ × σ) (calls : List (Call α)) : Cache α σ × σ :=
  calls.foldl step state

/-- A cache without regions, with the exchange as its only listener. -/
def ofExchange (x : Exchange α) : Cache α FileTree :=
  Cache.empty.addListener (.ofExchange x)

/-- A new region that the exchange fills stays in the cache. -/
theorem tellCreated_ofExchange_ok (cache : Cache α FileTree) {x : Exchange α}
    {tree : FileTree} {name : String} {count : Nat}
    {entries : List (Key × Value α)}
    (himport : x.importInto tree (.empty (.root name)) =
      (.ok count, (Region.empty (.root name)).putAll entries)) :
    tellCreated name (.empty (.root name))
        (cache.setRegion (.empty (.root name))) tree [.ofExchange x] =
      (.ok ((Region.empty (.root name)).putAll entries),
        cache.setRegion ((Region.empty (.root name)).putAll entries),
        tree) := by
  have hhear : ∀ regions, (Listener.ofExchange x).hear .created regions
      (.empty (.root name)) tree =
        (.ok (), (Region.empty (.root name)).putAll entries, tree) := by
    intro regions
    simp only [Listener.ofExchange, himport]
  rw [tellCreated, cache.tell_setRegion (hhear _) (by rfl)]
  rfl

/-- A new region that the exchange cannot fill is taken out again. -/
theorem tellCreated_ofExchange_error (cache : Cache α FileTree)
    {x : Exchange α} {tree : FileTree} {name : String} {error : ExchangeError}
    {entries : List (Key × Value α)}
    (himport : x.importInto tree (.empty (.root name)) =
      (.error error, (Region.empty (.root name)).putAll entries)) :
    tellCreated name (.empty (.root name))
        (cache.setRegion (.empty (.root name))) tree [.ofExchange x] =
      (.error (.notCreated ("/" ++ name) (.exchange error)),
        cache.without name, tree) := by
  have hhear : ∀ regions, (Listener.ofExchange x).hear .created regions
      (.empty (.root name)) tree =
        (.error (.exchange error), (Region.empty (.root name)).putAll entries,
          tree) := by
    intro regions
    simp only [Listener.ofExchange, himport]
  rw [tellCreated, cache.tell_setRegion (hhear _) (by rfl)]
  dsimp only
  rw [setRegion_without cache (by rfl)]
  rfl

theorem tellDestroying_ofExchange (cache : Cache α FileTree) (x : Exchange α)
    (region : Region α) (tree : FileTree) :
    tellDestroying region cache tree [.ofExchange x] =
      (.ok (), cache.update region.name (fun _ => region),
        (x.exportFrom tree region).2) :=
  rfl

/-- Regions of these names are exported and imported, each to and from a file
of its own; a name without such a file has no snapshot to import. -/
structure KeepsFiles (x : Exchange α) (tree : FileTree)
    (names : List String) : Prop where
  grounded : tree.Grounded
  writer : ∃ size, x.writer = .buffered size
  exports : ∀ region : Region α, region.name ∈ names →
    x.gate.shouldExport region = true
  imports : ∀ region : Region α, region.name ∈ names →
    x.gate.shouldImport region = true
  kept : ∀ name ∈ names, (∃ place, x.KeepsAt tree (.root name) place) ∨
    x.Lacks tree (.root name)
  apart : ∀ name ∈ names, ∀ other ∈ names, name ≠ other →
    ∀ place, x.KeepsAt tree (.root name) place →
      ¬x.KeepsAt tree (.root other) place

/-- A region that can be imported is kept in a file. -/
theorem KeepsFiles.exists_place {x : Exchange α} {tree after : FileTree}
    {names : List String} (h : KeepsFiles x tree names) {name : String}
    (hname : name ∈ names) (hshape : tree.SameShape after) {count : Nat}
    {region : Region α}
    (himport : x.importInto after (.empty (.root name)) = (.ok count, region)) :
    ∃ place, x.KeepsAt tree (.root name) place := by
  rcases h.kept name hname with hplace | hlacks
  · exact hplace
  · have hlacks : x.Lacks after (.empty (.root name) : Region α).id :=
      hlacks.of_sameShape hshape
    obtain ⟨error, hfailed⟩ :=
      hlacks.importInto (h.imports (.empty (.root name)) hname) rfl
    rw [himport] at hfailed
    cases hfailed

/-- What every call keeps: the files stand as they did at first, and each
region has its entries in order and its snapshot in a file. -/
structure Tended (x : Exchange α) (tree : FileTree) (names : List String)
    (state : Cache α FileTree × FileTree) : Prop where
  listeners : state.1.listeners = [.ofExchange x]
  shape : tree.SameShape state.2
  region : ∀ name region, state.1.region? name = some region →
    name ∈ names ∧ region.id = .root name ∧
      Entries.Sorted region.entries ∧ Text.isBlank name = false ∧
      ∃ place, x.KeepsAt tree (.root name) place

/-- The region is gone and the file at `place` holds `bytes`. -/
structure Saved (name : String) (place : Place) (bytes : Bytes)
    (state : Cache α FileTree × FileTree) : Prop where
  gone : state.1.region? name = none
  node : state.2.node? place = some (.file bytes .full)

namespace Tended

variable {x : Exchange α} {tree : FileTree} {names : List String}
  {state : Cache α FileTree × FileTree}

theorem start (x : Exchange α) (tree : FileTree) (names : List String) :
    Tended x tree names (ofExchange x, tree) :=
  ⟨rfl, .refl tree, fun _ _ h => by cases h⟩

theorem region?_update (h : Tended x tree names state) (name other : String)
    {change : Region α → Region α}
    (hid : ∀ region, (change region).id = region.id) :
    (state.1.update name change).region? other =
      if other = name then (state.1.region? other).map change
      else state.1.region? other := by
  apply Cache.region?_update
  intro region hregion
  rw [Region.name, hid, (h.region name region hregion).2.1]
  rfl

/-- Changing the entries of a region keeps it tended. -/
theorem update (h : Tended x tree names state) (name : String)
    {change : Region α → Region α}
    (hid : ∀ region, (change region).id = region.id)
    (hsorted : ∀ region : Region α, Entries.Sorted region.entries →
      Entries.Sorted (change region).entries) :
    Tended x tree names (state.1.update name change, state.2) := by
  refine ⟨(listeners_update _ _ _).trans h.listeners, h.shape, ?_⟩
  intro other region hregion
  dsimp only at hregion
  rw [h.region?_update name other hid] at hregion
  split at hregion
  · obtain ⟨old, hold, rfl⟩ := Option.map_eq_some_iff.1 hregion
    obtain ⟨hname, hroot, hentries, hblank, hplace⟩ := h.region other old hold
    exact ⟨hname, (hid old).trans hroot, hsorted old hentries, hblank, hplace⟩
  · exact h.region other region hregion

/-- A creation leaves the files alone and puts a region into the cache only if
it is kept in a file. -/
theorem create_cases (h : Tended x tree names state)
    (hkeeps : KeepsFiles x tree names) {name : String} (hname : name ∈ names) :
    Cache.step state (.create name) = state ∨
      ∃ entries place, Text.isBlank name = false ∧
        x.KeepsAt tree (.root name) place ∧
        Cache.step state (.create name) =
          (state.1.setRegion ((Region.empty (.root name)).putAll entries),
            state.2) := by
  rw [Cache.step, create]
  split
  · exact .inl rfl
  · rename_i hblank
    split
    · exact .inl rfl
    · rename_i htaken
      obtain ⟨entries, hentries⟩ :=
        x.exists_importInto state.2 (.empty (.root name))
      rcases hresult : x.importInto state.2 (.empty (.root name)) with
        ⟨result, region⟩
      rw [hresult] at hentries
      dsimp only at hentries
      subst hentries
      rw [h.listeners]
      cases result with
      | error error =>
          left
          have hnone : state.1.region? name = none := by simpa using htaken
          rw [tellCreated_ofExchange_error state.1 hresult,
            without_eq_self hnone]
      | ok count =>
          obtain ⟨place, hplace⟩ := hkeeps.exists_place hname h.shape hresult
          refine .inr ⟨entries, place, by simpa using hblank, hplace, ?_⟩
          rw [tellCreated_ofExchange_ok state.1 hresult]

/-- A destruction exports the region and takes it out of the cache. -/
theorem destroy_eq (h : Tended x tree names state) {name : String}
    {region : Region α} (hregion : state.1.region? name = some region) :
    state.1.destroy name state.2 =
      (.ok true, state.1.without name, (x.exportFrom state.2 region).2) := by
  have hname : region.name = name :=
    Region.name_of_root (h.region name region hregion).2.1
  rw [destroy, hregion]
  dsimp only
  rw [h.listeners, tellDestroying_ofExchange]
  dsimp only
  rw [Cache.update, hname, hregion]
  dsimp only
  rw [setRegion_without state.1 hname]
  rfl

/-- Each region is kept in a file, at first and now. -/
theorem exists_place (h : Tended x tree names state) {name : String}
    {region : Region α} (hregion : state.1.region? name = some region) :
    ∃ place, x.KeepsAt tree (.root name) place ∧
      x.KeepsAt state.2 region.id place := by
  obtain ⟨-, hroot, -, -, place, hplace⟩ := h.region name region hregion
  rw [hroot]
  exact ⟨place, hplace, hplace.of_sameShape h.shape⟩

/-- A destruction does nothing without the region, and else changes no file but
the one in which the region is kept. -/
theorem destroy_cases (h : Tended x tree names state)
    (hkeeps : KeepsFiles x tree names) (name : String) :
    Cache.step state (.destroy name) = state ∨
      ∃ region place after, state.1.region? name = some region ∧
        x.KeepsAt tree (.root name) place ∧
        Cache.step state (.destroy name) =
          (state.1.without name, after) ∧
        after.SameShape state.2 ∧
        ∀ other, other ≠ place → after.node? other = state.2.node? other := by
  cases hregion : state.1.region? name with
  | none =>
      have hsame : state.1.destroy name state.2 = (.ok false, state) := by
        rw [destroy, hregion]
      exact .inl (congrArg Prod.snd hsame)
  | some region =>
      obtain ⟨place, hplace, hkept⟩ := h.exists_place hregion
      obtain ⟨hshape, hframe⟩ := hkept.exportFrom_frame
        (h.shape.grounded hkeeps.grounded) hkeeps.writer
      exact .inr ⟨region, place, _, rfl, hplace,
        congrArg Prod.snd (h.destroy_eq hregion), hshape, hframe⟩

theorem step_create (h : Tended x tree names state)
    (hkeeps : KeepsFiles x tree names) {name : String} (hname : name ∈ names) :
    Tended x tree names (Cache.step state (.create name)) := by
  rcases h.create_cases hkeeps hname with
    hsame | ⟨entries, place, hblank, hplace, hstate⟩
  · rw [hsame]
    exact h
  · rw [hstate]
    refine ⟨h.listeners, h.shape, ?_⟩
    intro other region hregion
    rw [region?_setRegion] at hregion
    split at hregion
    · rename_i heq
      cases hregion
      have hother : other = name := heq
      subst hother
      exact ⟨hname, rfl, Entries.sorted_nil.insertAll _, hblank, place, hplace⟩
    · exact h.region other region hregion

theorem step_destroy (h : Tended x tree names state)
    (hkeeps : KeepsFiles x tree names) (name : String) :
    Tended x tree names (Cache.step state (.destroy name)) := by
  rcases h.destroy_cases hkeeps name with
    hsame | ⟨region, place, after, -, -, hstate, hshape, -⟩
  · rw [hsame]
    exact h
  · rw [hstate]
    refine ⟨h.listeners, h.shape.trans hshape.symm, ?_⟩
    intro other old hold
    rw [region?_without] at hold
    split at hold
    · cases hold
    · exact h.region other old hold

/-- Every call keeps what `Tended` says. -/
theorem step (h : Tended x tree names state) (hkeeps : KeepsFiles x tree names)
    {call : Call α} (hcall : call.name ∈ names) :
    Tended x tree names (Cache.step state call) := by
  cases call with
  | create name => exact h.step_create hkeeps hcall
  | destroy name => exact h.step_destroy hkeeps name
  | put name key value =>
      exact h.update name (fun _ => rfl) (fun _ hsorted => hsorted.insert _ _)
  | remove name key =>
      exact h.update name (fun _ => rfl) (fun _ hsorted => hsorted.erase _)
  | clear name =>
      exact h.update name (fun _ => rfl) (fun _ _ => Entries.sorted_nil)

/-- Every run keeps what `Tended` says. -/
theorem run (h : Tended x tree names state) (hkeeps : KeepsFiles x tree names)
    {calls : List (Call α)} (hcalls : ∀ call ∈ calls, call.name ∈ names) :
    Tended x tree names (Cache.run state calls) := by
  induction calls generalizing state with
  | nil => exact h
  | cons call rest ih =>
      exact ih (h.step hkeeps (hcalls call List.mem_cons_self))
        (fun other hother => hcalls other (List.mem_cons_of_mem call hother))

/-- Destroying a region of typed objects that are read back leaves a document
in its file from which exactly its entries are made again. -/
theorem saved_destroy (h : Tended x tree names state)
    (hkeeps : KeepsFiles x tree names) {name : String} {region : Region α}
    (hregion : state.1.region? name = some region)
    (hfaithful : ∀ entry ∈ region.entries, ∃ object,
      entry.2 = .object object ∧ object.Faithful x.registry)
    (hfits : Snapshot.FitsReader region.entries) :
    ∃ place bytes, x.KeepsAt tree (.root name) place ∧
      Saved name place bytes (Cache.step state (.destroy name)) ∧
      Exchange.entriesOf x.registry (.root name) bytes = .ok region.entries := by
  obtain ⟨hname, hroot, -, -, -⟩ := h.region name region hregion
  obtain ⟨place, hplace, hkept⟩ := h.exists_place hregion
  obtain ⟨bytes, hencode, hentries⟩ :=
    Exchange.exists_entriesOf x.registry hfaithful hfits (.root name)
  have hselected : x.gate.shouldExport region = true := by
    apply hkeeps.exports
    rwa [Region.name, hroot]
  refine ⟨place, bytes, hplace, ⟨?_, ?_⟩, hentries⟩
  · rw [Cache.step, h.destroy_eq hregion]
    dsimp only
    rw [region?_without, if_pos rfl]
  · rw [Cache.step, h.destroy_eq hregion]
    dsimp only
    rw [Exchange.exportFrom, if_pos hselected]
    exact (hkept.exportNow_node (h.shape.grounded hkeeps.grounded)
      hkeeps.writer hencode).2

end Tended
namespace Saved

variable {x : Exchange α} {tree : FileTree} {names : List String}
  {state : Cache α FileTree × FileTree} {name : String} {place : Place}
  {bytes : Bytes}

theorem update (h : Saved name place bytes state)
    (htended : Tended x tree names state) (other : String)
    {change : Region α → Region α}
    (hid : ∀ region, (change region).id = region.id) :
    Saved name place bytes (state.1.update other change, state.2) := by
  refine ⟨?_, h.node⟩
  rw [htended.region?_update other name hid, h.gone]
  split <;> rfl

/-- The creation of another region leaves this one gone. -/
theorem step_create (h : Saved name place bytes state)
    (htended : Tended x tree names state) (hkeeps : KeepsFiles x tree names)
    {other : String} (hother : other ∈ names) (hne : name ≠ other) :
    Saved name place bytes (Cache.step state (.create other)) := by
  rcases htended.create_cases hkeeps hother with
    hsame | ⟨entries, -, -, -, hstate⟩
  · rw [hsame]
    exact h
  · rw [hstate]
    refine ⟨?_, h.node⟩
    rw [region?_setRegion, if_neg, h.gone]
    exact hne

/-- The destruction of another region writes to another file. -/
theorem step_destroy (h : Saved name place bytes state)
    (htended : Tended x tree names state) (hkeeps : KeepsFiles x tree names)
    (hname : name ∈ names) (hplace : x.KeepsAt tree (.root name) place)
    {other : String} (hother : other ∈ names) :
    Saved name place bytes (Cache.step state (.destroy other)) := by
  rcases htended.destroy_cases hkeeps other with
    hsame | ⟨region, place', after, hregion, hplace', hstate, -, hframe⟩
  · rw [hsame]
    exact h
  · have hne : name ≠ other := by
      rintro rfl
      rw [h.gone] at hregion
      cases hregion
    have hapart : place ≠ place' := by
      rintro rfl
      exact hkeeps.apart name hname other hother hne place hplace hplace'
    rw [hstate]
    refine ⟨?_, (hframe place hapart).trans h.node⟩
    dsimp only
    rw [region?_without, if_neg hne]
    exact h.gone

/-- A call that does not create the region leaves it gone and its file as it
is. -/
theorem step (h : Saved name place bytes state)
    (htended : Tended x tree names state) (hkeeps : KeepsFiles x tree names)
    (hname : name ∈ names) (hplace : x.KeepsAt tree (.root name) place)
    {call : Call α} (hcall : call.name ∈ names)
    (hcreate : call ≠ .create name) :
    Saved name place bytes (Cache.step state call) := by
  cases call with
  | create other =>
      apply h.step_create htended hkeeps hcall
      rintro rfl
      exact hcreate rfl
  | destroy other => exact h.step_destroy htended hkeeps hname hplace hcall
  | put other key value => exact h.update htended other (fun _ => rfl)
  | remove other key => exact h.update htended other (fun _ => rfl)
  | clear other => exact h.update htended other (fun _ => rfl)

/-- A run that does not create the region leaves it gone and its file as it
is. -/
theorem run (h : Saved name place bytes state)
    (htended : Tended x tree names state) (hkeeps : KeepsFiles x tree names)
    (hname : name ∈ names) (hplace : x.KeepsAt tree (.root name) place)
    {calls : List (Call α)} (hcalls : ∀ call ∈ calls, call.name ∈ names)
    (hcreate : .create name ∉ calls) :
    Saved name place bytes (Cache.run state calls) := by
  induction calls generalizing state with
  | nil => exact h
  | cons call rest ih =>
      have hcall := hcalls call List.mem_cons_self
      have hfirst : call ≠ .create name := fun heq =>
        hcreate (heq ▸ List.mem_cons_self)
      exact ih (h.step htended hkeeps hname hplace hcall hfirst)
        (htended.step hkeeps hcall)
        (fun other hother => hcalls other (List.mem_cons_of_mem call hother))
        (fun hmem => hcreate (List.mem_cons_of_mem call hmem))

/-- Creating the region again fills it with the entries of its document. -/
theorem create_eq (h : Saved name place bytes state)
    (htended : Tended x tree names state) (hkeeps : KeepsFiles x tree names)
    (hname : name ∈ names) (hblank : Text.isBlank name = false)
    (hplace : x.KeepsAt tree (.root name) place)
    {entries : List (Key × Value α)} (hsorted : Entries.Sorted entries)
    (hentries : Exchange.entriesOf x.registry (.root name) bytes =
      .ok entries) :
    state.1.create name state.2 =
      (.ok ⟨.root name, entries⟩, state.1.setRegion ⟨.root name, entries⟩,
        state.2) := by
  have hfinds : x.Finds state.2 (.empty (.root name)) bytes :=
    (hplace.of_sameShape htended.shape).finds h.node rfl
  have hfilled : (Region.empty (.root name)).putAll entries =
      ⟨.root name, entries⟩ :=
    congrArg (Region.mk (.root name)) hsorted.insertAll_nil
  have himport : x.importInto state.2 (.empty (.root name)) =
      (.ok entries.length, (Region.empty (.root name)).putAll entries) := by
    have hselected : x.gate.shouldImport (.empty (.root name)) = true :=
      hkeeps.imports _ hname
    rw [Exchange.importInto, if_pos hselected, hfinds.importNow]
    dsimp only [Region.empty]
    rw [hentries]
  rw [create, hblank, h.gone, htended.listeners]
  simp only [Bool.false_eq_true, if_false, Option.isSome_none]
  rw [tellCreated_ofExchange_ok state.1 himport, hfilled]

end Saved

/-- Whatever a run did before, destroying a region of typed objects that are
read back succeeds, and whatever it does afterwards short of creating the
region, the next creation succeeds and gives the same region again. -/
theorem create_of_destroyed {x : Exchange α} {tree : FileTree}
    {names : List String} (hkeeps : KeepsFiles x tree names)
    {before after : List (Call α)}
    (hbefore : ∀ call ∈ before, call.name ∈ names)
    (hafter : ∀ call ∈ after, call.name ∈ names) {name : String}
    (hcreate : .create name ∉ after) {region : Region α}
    (hregion : (run (ofExchange x, tree) before).1.region? name = some region)
    (hfaithful : ∀ entry ∈ region.entries, ∃ object,
      entry.2 = .object object ∧ object.Faithful x.registry)
    (hfits : Snapshot.FitsReader region.entries) :
    let held := run (ofExchange x, tree) before
    let gone := run held (.destroy name :: after)
    (held.1.destroy name held.2).1 = .ok true ∧
      gone.1.create name gone.2 =
        (.ok region, gone.1.setRegion region, gone.2) := by
  intro held gone
  have hheld : Tended x tree names held :=
    (Tended.start x tree names).run hkeeps hbefore
  obtain ⟨hname, hroot, hsorted, hblank, -⟩ := hheld.region name region hregion
  obtain ⟨place, bytes, hplace, hsaved, hentries⟩ :=
    hheld.saved_destroy hkeeps hregion hfaithful hfits
  have hdestroyed : Tended x tree names (step held (.destroy name)) :=
    hheld.step hkeeps hname
  have hgone : Tended x tree names gone := hdestroyed.run hkeeps hafter
  have hkept : Saved name place bytes gone :=
    hsaved.run hdestroyed hkeeps hname hplace hafter hcreate
  have hsame : (⟨.root name, region.entries⟩ : Region α) = region := by
    rw [← hroot]
  refine ⟨by rw [hheld.destroy_eq hregion], ?_⟩
  rw [hkept.create_eq hgone hkeeps hname hblank hplace hsorted hentries, hsame]

theorem dataExchange_keepsFiles :
    KeepsFiles Exchange.dataExchange Exchange.dataTree ["Trees", "Notes"] := by
  have hplace : ∀ name ∈ ["Trees", "Notes"], Exchange.dataExchange.KeepsAt
      Exchange.dataTree (.root name) ["data", Text.toLower name ++ ".json"] := by
    intro name hname
    simp only [List.mem_cons, List.not_mem_nil, or_false] at hname
    rcases hname with rfl | rfl
    · exact Exchange.dataExchange_keepsTrees
    · exact Exchange.dataExchange_keepsNotes
  refine ⟨Exchange.dataTree_grounded, ⟨_, rfl⟩, fun _ _ => by rfl,
    fun _ _ => by rfl, fun name hname => .inl ⟨_, hplace name hname⟩, ?_⟩
  intro name hname other hother hne place hfirst hsecond
  have hfirst := hfirst.unique (hplace name hname)
  have hsecond := hsecond.unique (hplace other hother)
  have hlower : ∀ name ∈ ["Trees", "Notes"], ∀ other ∈ ["Trees", "Notes"],
      Text.toLower name ++ ".json" = Text.toLower other ++ ".json" →
        name = other := by
    decide
  rw [hfirst, List.cons.injEq, List.cons.injEq] at hsecond
  exact hne (hlower name hname other hother hsecond.2.1)

/-- Two regions are created, and one is filled. -/
def fillingCalls : List (Call Datum) := [
  .create "Trees",
  .create "Notes",
  .put "Trees" (.str "rows") (.object (Snapshot.treeObject .null)),
  .put "Trees" (.int 4) (.object (Snapshot.treeObject
    (.obj [("id", .str "own")]))),
  .put "Trees" (.str "rows") (.object (Snapshot.treeObject
    (.obj [("id", .ofInt64 9), ("rows", .arr [.arr []])])))]

/-- The other region is filled, destroyed and created again. -/
def otherCalls : List (Call Datum) := [
  .put "Notes" (.int 4) (.object (Snapshot.treeObject .null)),
  .destroy "Notes",
  .create "Notes",
  .clear "Notes"]

theorem create_of_destroyed_trees :
    KeepsFiles Exchange.dataExchange Exchange.dataTree ["Trees", "Notes"] ∧
    let held := run (ofExchange Exchange.dataExchange, Exchange.dataTree)
      fillingCalls
    let gone := run held (.destroy "Trees" :: otherCalls)
    held.1.region? "Trees" = some Exchange.treesRegion ∧
      (held.1.destroy "Trees" held.2).1 = .ok true ∧
      gone.1.create "Trees" gone.2 =
        (.ok Exchange.treesRegion, gone.1.setRegion Exchange.treesRegion,
          gone.2) := by
  have hregion : (run (ofExchange Exchange.dataExchange, Exchange.dataTree)
      fillingCalls).1.region? "Trees" = some Exchange.treesRegion := by
    rfl
  refine ⟨dataExchange_keepsFiles, hregion,
    create_of_destroyed dataExchange_keepsFiles ?_ ?_ ?_ hregion
      Exchange.treesRegion_faithful Snapshot.treeEntries_fit⟩
  · simp [fillingCalls, Call.name]
  · simp [otherCalls, Call.name]
  · simp [otherCalls]

end Cache
end RegionSnapshot
