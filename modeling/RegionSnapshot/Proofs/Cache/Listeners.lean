/-
Listeners of a cache.  They are told of a region one after the other while it
stands in the cache, and what one of them puts into it is there for the next.
The first failure takes a new region out of the cache again, so that nothing is
left of it; a destruction tells all of them and then takes out its region and no
other.
-/
import RegionSnapshot.Proofs.Cache.Runs
import RegionSnapshot.Proofs.Entries

namespace RegionSnapshot

namespace Listener

variable {α σ : Type}

/-- Whatever a listener is told, all it does to the region is to put entries
into it. -/
def OnlyPuts (listener : Listener α σ) : Prop :=
  ∀ event regions region world, ∃ result entries after,
    listener.hear event regions region world =
      (result, region.putAll entries, after)

/-- The first failure of some listeners. -/
def firstError : List (Except CacheError Unit) → Except CacheError Unit
  | [] => .ok ()
  | .ok () :: rest => firstError rest
  | .error error :: _ => .error error

end Listener

theorem Region.putAll_putAll {α : Type} (region : Region α)
    (first second : List (Key × Value α)) :
    (region.putAll first).putAll second = region.putAll (first ++ second) := by
  simp [putAll, Entries.insertAll, List.foldl_append]

namespace Cache

variable {α σ : Type} {name : String}

/-- Listeners are told of the region called `name`, each once and in order.
Each sees the regions of the cache as they stand at that time, this region among
them, and what it makes of the region stands in the cache afterwards. -/
inductive Told (event : Event) (name : String) :
    List (Listener α σ) → Cache α σ × σ → List (Except CacheError Unit) →
      Cache α σ × σ → Prop
  | none {state : Cache α σ × σ} : Told event name [] state [] state
  | next {listener : Listener α σ} {rest : List (Listener α σ)}
      {cache : Cache α σ} {world after : σ} {region heard : Region α}
      {result : Except CacheError Unit}
      {results : List (Except CacheError Unit)} {last : Cache α σ × σ}
      (hregion : cache.region? name = some region)
      (hhear : listener.hear event cache.regions region world =
        (result, heard, after))
      (hrest : Told event name rest (cache.setRegion heard, after) results
        last) :
      Told event name (listener :: rest) (cache, world) (result :: results) last

/-- One more listener is told first, of a region into which it puts entries. -/
theorem Told.cons {event : Event} {listener : Listener α σ}
    {rest : List (Listener α σ)} {cache : Cache α σ} {world after : σ}
    {region : Region α} {result : Except CacheError Unit}
    {entries : List (Key × Value α)}
    {results : List (Except CacheError Unit)} {last : Cache α σ × σ}
    (hname : region.name = name)
    (hhear : listener.hear event (cache.setRegion region).regions region world =
      (result, region.putAll entries, after))
    (hrest : Told event name rest
      (cache.setRegion (region.putAll entries), after) results last) :
    Told event name (listener :: rest) (cache.setRegion region, world)
      (result :: results) last := by
  apply Told.next (region?_setRegion_self cache hname) hhear
  rw [setRegion_setRegion]
  · exact hrest
  · rfl

/-- A destruction tells all listeners of a region that stands in the cache, and
its failure is the first one of theirs. -/
theorem exists_told_destroying {listeners : List (Listener α σ)}
    (hputs : ∀ listener ∈ listeners, listener.OnlyPuts) (cache : Cache α σ)
    (region : Region α) (hname : region.name = name) (world : σ) :
    ∃ results entries last,
      tellDestroying region (cache.setRegion region) world listeners =
        (Listener.firstError results,
          cache.setRegion (region.putAll entries), last) ∧
      Told .destroying name listeners (cache.setRegion region, world) results
        (cache.setRegion (region.putAll entries), last) := by
  -- each listener meets the region and the world that the ones before it left
  induction listeners generalizing region world with
  | nil => exact ⟨[], [], world, rfl, .none⟩
  | cons listener rest ih =>
      rw [List.forall_mem_cons] at hputs
      obtain ⟨result, first, after, hhear⟩ :=
        hputs.1 .destroying (cache.setRegion region).regions region world
      obtain ⟨results, entries, last, hall, htold⟩ :=
        ih hputs.2 (region.putAll first) hname after
      rw [Region.putAll_putAll] at hall htold
      refine ⟨result :: results, first ++ entries, last, ?_,
        htold.cons hname hhear⟩
      rw [tellDestroying, cache.tell_setRegion hhear rfl]
      dsimp only
      rw [hall]
      rcases result with error | done
      · rfl
      · rfl

/-- A creation tells the listeners of a region that stands in the cache, up to
the first that fails; with that one's failure the region is taken out again. -/
theorem exists_told_created {listeners : List (Listener α σ)}
    (hputs : ∀ listener ∈ listeners, listener.OnlyPuts) (cache : Cache α σ)
    (region : Region α) (hid : region.id = .root name) (world : σ) :
    ∃ told results entries last,
      Told .created name told (cache.setRegion region, world) results
        (cache.setRegion (region.putAll entries), last) ∧
      ((told = listeners ∧ (∀ result ∈ results, result = .ok ()) ∧
          tellCreated name region (cache.setRegion region) world listeners =
            (.ok (region.putAll entries),
              cache.setRegion (region.putAll entries), last)) ∨
        told <+: listeners ∧ ∃ done error, results = done ++ [.error error] ∧
          (∀ result ∈ done, result = .ok ()) ∧
          tellCreated name region (cache.setRegion region) world listeners =
            (.error (.notCreated ("/" ++ name) error),
              (cache.setRegion (region.putAll entries)).without name,
              last)) := by
  induction listeners generalizing region world with
  | nil =>
      refine ⟨[], [], [], world, .none, .inl ⟨rfl, ?_, rfl⟩⟩
      intro result hresult
      cases hresult
  | cons listener rest ih =>
      rw [List.forall_mem_cons] at hputs
      obtain ⟨result, first, after, hhear⟩ :=
        hputs.1 .created (cache.setRegion region).regions region world
      have hname : region.name = name := Region.name_of_root hid
      rcases result with error | done
      · refine ⟨[listener], [.error error], first, after,
          Told.none.cons hname hhear,
          .inr ⟨⟨rest, rfl⟩, [], error, rfl, ?_, ?_⟩⟩
        · intro result hresult
          cases hresult
        · have hpath : (region.putAll first).fullPath = "/" ++ name :=
            congrArg RegionId.fullPath hid
          rw [tellCreated, cache.tell_setRegion hhear rfl]
          dsimp only
          rw [hpath]
      · obtain ⟨told, results, entries, last, htold, houtcome⟩ :=
          ih hputs.2 (region.putAll first) hid after
        have hstep : tellCreated name region (cache.setRegion region) world
            (listener :: rest) = tellCreated name (region.putAll first)
              (cache.setRegion (region.putAll first)) after rest := by
          rw [tellCreated, cache.tell_setRegion hhear rfl]
        rw [Region.putAll_putAll] at htold houtcome
        refine ⟨listener :: told, .ok () :: results, first ++ entries, last,
          htold.cons hname hhear, ?_⟩
        rw [hstep]
        rcases houtcome with
          ⟨rfl, hok, hall⟩ | ⟨hfront, done, error, rfl, hok, hall⟩
        · exact .inl ⟨rfl, List.forall_mem_cons.2 ⟨rfl, hok⟩, hall⟩
        · refine .inr ⟨?_, .ok () :: done, error, rfl,
            List.forall_mem_cons.2 ⟨rfl, hok⟩, hall⟩
          exact (List.prefix_cons_inj listener).2 hfront

/-- What a creation does: nothing for a name that is blank or taken.  Else an
empty region stands in the cache while the listeners are told of it, and the
first failure takes it out again. -/
theorem create_spec {cache : Cache α σ}
    (hputs : ∀ listener ∈ cache.listeners, listener.OnlyPuts) (name : String)
    (world : σ) :
    (Text.isBlank name = true ∧
        cache.create name world = (.error .blankName, cache, world)) ∨
      (name ∈ cache.names ∧
        cache.create name world =
          (.error (.alreadyExists name), cache, world)) ∨
      (Text.isBlank name = false ∧ name ∉ cache.names ∧
        ∃ told results region last,
          Told .created name told
            (cache.setRegion (.empty (.root name)), world) results
            (cache.setRegion region, last) ∧
          region.id = .root name ∧
          ((told = cache.listeners ∧ (∀ result ∈ results, result = .ok ()) ∧
              cache.create name world =
                (.ok region, cache.setRegion region, last)) ∨
            (told <+: cache.listeners ∧ ∃ done error,
              results = done ++ [.error error] ∧
              (∀ result ∈ done, result = .ok ()) ∧
              cache.create name world =
                (.error (.notCreated ("/" ++ name) error),
                  (cache.setRegion region).without name, last)))) := by
  rw [create]
  by_cases hblank : Text.isBlank name = true
  · exact .inl ⟨hblank, if_pos hblank⟩
  by_cases hsome : (cache.region? name).isSome = true
  · refine .inr (.inl ⟨(mem_names_iff cache name).2 hsome, ?_⟩)
    rw [if_neg hblank, if_pos hsome]
  have hmissing : name ∉ cache.names := by rwa [mem_names_iff]
  obtain ⟨told, results, entries, last, htold, houtcome⟩ :=
    exists_told_created hputs cache (.empty (.root name)) rfl world
  refine .inr (.inr ⟨Bool.eq_false_iff.2 hblank, hmissing, told, results, _,
    last, htold, rfl, ?_⟩)
  rw [if_neg hblank, if_neg hsome]
  exact houtcome

/-- What each call keeps: a region stands under its own name, and the names are
in order. -/
structure Orderly (listeners : List (Listener α σ)) (cache : Cache α σ) :
    Prop where
  listeners : cache.listeners = listeners
  sorted : Entries.Sorted cache.regions
  region : ∀ name region, cache.region? name = some region →
    region.id = .root name

/-- What a destruction does: nothing without the region.  Else the region stands
in the cache while all listeners are told of it, and then it is taken out. -/
theorem Orderly.destroy_spec {listeners : List (Listener α σ)}
    {cache : Cache α σ} (h : cache.Orderly listeners)
    (hputs : ∀ listener ∈ listeners, listener.OnlyPuts) (name : String)
    (world : σ) :
    (name ∉ cache.names ∧
        cache.destroy name world = (.ok false, cache, world)) ∨
      ∃ region results entries last,
        cache.region? name = some region ∧
        Told .destroying name listeners (cache, world) results
          (cache.setRegion (region.putAll entries), last) ∧
        cache.destroy name world =
          ((Listener.firstError results).map (fun _ => true),
            cache.without name, last) := by
  rw [destroy]
  cases hregion : cache.region? name with
  | none => exact .inl ⟨(not_mem_names_iff cache name).2 hregion, rfl⟩
  | some region =>
      have hname : region.name = name :=
        Region.name_of_root (h.region name region hregion)
      have hlisteners := h.listeners
      subst hlisteners
      obtain ⟨results, entries, last, hall, htold⟩ :=
        exists_told_destroying hputs cache region hname world
      -- the names are in order, so the region is put where it stands already
      have hself : cache.setRegion region = cache := by
        rw [setRegion, hname, h.sorted.insert_eq_self hregion]
      rw [hself] at hall htold
      refine .inr ⟨region, results, entries, last, rfl, htold, ?_⟩
      dsimp only
      rw [hall]
      dsimp only
      rw [setRegion_without cache (by exact hname)]

namespace Orderly

variable {listeners : List (Listener α σ)} {cache : Cache α σ}

theorem setRegion (h : cache.Orderly listeners) {region : Region α}
    (hid : region.id = .root name) :
    (cache.setRegion region).Orderly listeners := by
  have hname := Region.name_of_root hid
  refine ⟨h.listeners, h.sorted.insert region.name region, ?_⟩
  intro other found hfound
  rw [region?_setRegion, hname] at hfound
  split at hfound
  · rename_i heq
    cases hfound
    rw [hid, heq]
  · exact h.region other found hfound

theorem without (h : cache.Orderly listeners) (name : String) :
    (cache.without name).Orderly listeners := by
  refine ⟨h.listeners, h.sorted.erase name, ?_⟩
  intro other region hregion
  rw [region?_without] at hregion
  split at hregion
  · cases hregion
  · exact h.region other region hregion

theorem update (h : cache.Orderly listeners) (name : String)
    {change : Region α → Region α}
    (hid : ∀ region, (change region).id = region.id) :
    (cache.update name change).Orderly listeners := by
  rw [Cache.update]
  split
  · rename_i region hregion
    apply h.setRegion
    exact (hid region).trans (h.region name region hregion)
  · exact h

/-- Every call keeps what `Orderly` says. -/
theorem step (hputs : ∀ listener ∈ listeners, listener.OnlyPuts)
    {state : Cache α σ × σ} (h : state.1.Orderly listeners)
    (call : Call α) : (Cache.step state call).1.Orderly listeners := by
  cases call with
  | create name =>
      rw [Cache.step]
      rcases create_spec (h.listeners ▸ hputs) name state.2 with
        ⟨-, hsame⟩ | ⟨-, hsame⟩ | ⟨-, hmissing, told, results, region, last,
          -, hid, ⟨-, -, hcreated⟩ | ⟨-, done, error, -, -, hfailed⟩⟩
      · rw [hsame]
        exact h
      · rw [hsame]
        exact h
      · rw [hcreated]
        exact h.setRegion hid
      · rw [hfailed]
        exact (h.setRegion hid).without name
  | destroy name =>
      rw [Cache.step]
      rcases h.destroy_spec hputs name state.2 with
        ⟨-, hsame⟩ | ⟨region, results, entries, last, hregion, -, hdestroyed⟩
      · rw [hsame]
        exact h
      · rw [hdestroyed]
        exact h.without name
  | put name key value => exact h.update name (fun _ => rfl)
  | remove name key => exact h.update name (fun _ => rfl)
  | clear name => exact h.update name (fun _ => rfl)

/-- Every run keeps what `Orderly` says. -/
theorem run (hputs : ∀ listener ∈ listeners, listener.OnlyPuts)
    {state : Cache α σ × σ} (h : state.1.Orderly listeners)
    (calls : List (Call α)) : (Cache.run state calls).1.Orderly listeners := by
  induction calls generalizing state with
  | nil => exact h
  | cons call rest ih =>
      apply ih
      exact h.step hputs call

end Orderly

/-- Why a creation fails: the name is blank or taken, or a listener fails while
the new region stands in the cache. -/
inductive CreationFails (state : Cache α σ × σ) (name : String) :
    CacheError → Prop
  | blank (h : Text.isBlank name = true) : CreationFails state name .blankName
  | taken (h : name ∈ state.1.names) :
      CreationFails state name (.alreadyExists name)
  | listener {told : List (Listener α σ)}
      {done : List (Except CacheError Unit)} {cause : CacheError}
      {last : Cache α σ × σ} (hfront : told <+: state.1.listeners)
      (htold : Told .created name told
        (state.1.setRegion (.empty (.root name)), state.2)
        (done ++ [.error cause]) last)
      (hdone : ∀ result ∈ done, result = .ok ()) :
      CreationFails state name (.notCreated ("/" ++ name) cause)

/-- A creation that fails leaves the cache as it was. -/
theorem create_error {state : Cache α σ × σ}
    (hputs : ∀ listener ∈ state.1.listeners, listener.OnlyPuts)
    {error : CacheError}
    (h : (state.1.create name state.2).1 = .error error) :
    CreationFails state name error ∧
      (state.1.create name state.2).2.1 = state.1 := by
  rcases create_spec hputs name state.2 with ⟨hblank, hresult⟩ |
    ⟨htaken, hresult⟩ | ⟨-, hmissing, told, results, region, last, htold, hid,
      ⟨-, -, hresult⟩ | ⟨hfront, done, cause, rfl, hok, hresult⟩⟩
  · rw [hresult] at h ⊢
    cases h
    exact ⟨.blank hblank, rfl⟩
  · rw [hresult] at h ⊢
    cases h
    exact ⟨.taken htaken, rfl⟩
  · rw [hresult] at h
    cases h
  · rw [hresult] at h ⊢
    cases h
    refine ⟨.listener hfront htold hok, ?_⟩
    have hnone := (not_mem_names_iff state.1 name).1 hmissing
    have hwithout := setRegion_without state.1 (Region.name_of_root hid)
    exact hwithout.trans (without_eq_self hnone)

/-- A creation that succeeds adds one region, of which all listeners were
told. -/
theorem create_ok {state : Cache α σ × σ}
    (hputs : ∀ listener ∈ state.1.listeners, listener.OnlyPuts)
    {region : Region α} (h : (state.1.create name state.2).1 = .ok region) :
    Text.isBlank name = false ∧ name ∉ state.1.names ∧
      region.id = .root name ∧
      (state.1.create name state.2).2.1 = state.1.setRegion region ∧
      ∃ results, (∀ result ∈ results, result = .ok ()) ∧
        Told .created name state.1.listeners
          (state.1.setRegion (.empty (.root name)), state.2) results
          (state.1.create name state.2).2 := by
  rcases create_spec hputs name state.2 with ⟨-, hresult⟩ | ⟨-, hresult⟩ |
    ⟨hblank, hmissing, told, results, made, last, htold, hid,
      ⟨rfl, hok, hresult⟩ | ⟨-, done, cause, -, -, hresult⟩⟩
  · rw [hresult] at h
    cases h
  · rw [hresult] at h
    cases h
  · rw [hresult] at h ⊢
    cases h
    exact ⟨hblank, hmissing, hid, rfl, results, hok, htold⟩
  · rw [hresult] at h
    cases h

/-- Whatever a run did before, a creation that fails leaves the cache as it was,
and one that succeeds adds one region, after all listeners were told of it.  A
destruction of a region that is there tells all listeners of it while it stands
in the cache, takes out this region and no other, and gives back the first
failure of the listeners.  One of a region that is not there does nothing. -/
theorem create_destroy_of_run {listeners : List (Listener α σ)}
    (hputs : ∀ listener ∈ listeners, listener.OnlyPuts) (world : σ)
    (calls : List (Call α)) (name : String) :
    let state := run (⟨[], listeners⟩, world) calls
    let created := state.1.create name state.2
    let destroyed := state.1.destroy name state.2
    (∀ error, created.1 = .error error →
      CreationFails state name error ∧ created.2.1 = state.1) ∧
    (∀ region, created.1 = .ok region →
      Text.isBlank name = false ∧ name ∉ state.1.names ∧
      (∀ other, other ∈ created.2.1.names ↔
        other = name ∨ other ∈ state.1.names) ∧
      (∀ other, created.2.1.region? other =
        if other = name then some region else state.1.region? other) ∧
      ∃ results, (∀ result ∈ results, result = .ok ()) ∧
        Told .created name listeners
          (state.1.setRegion (.empty (.root name)), state.2) results
          created.2) ∧
    (∀ region, state.1.region? name = some region →
      ∃ results entries last,
        Told .destroying name listeners state results
          (state.1.setRegion (region.putAll entries), last) ∧
        destroyed = ((Listener.firstError results).map (fun _ => true),
          state.1.without name, last) ∧
        (∀ other, other ∈ destroyed.2.1.names ↔
          other ≠ name ∧ other ∈ state.1.names) ∧
        ∀ other, destroyed.2.1.region? other =
          if other = name then none else state.1.region? other) ∧
    (name ∉ state.1.names → destroyed = (.ok false, state)) := by
  intro state created destroyed
  have horderly : state.1.Orderly listeners := by
    apply Orderly.run hputs
    exact ⟨rfl, Entries.sorted_nil, fun _ _ hregion => by cases hregion⟩
  have hputs' : ∀ listener ∈ state.1.listeners, listener.OnlyPuts := by
    rw [horderly.listeners]
    exact hputs
  refine ⟨?_, ?_, ?_, ?_⟩
  · intro error herror
    exact create_error hputs' herror
  · intro region hregion
    obtain ⟨hblank, hmissing, hid, hstate, results, hok, htold⟩ :=
      create_ok hputs' hregion
    rw [horderly.listeners] at htold
    have hcache : created.2.1 = state.1.setRegion region := hstate
    have hname := Region.name_of_root hid
    refine ⟨hblank, hmissing, ?_, ?_, results, hok, htold⟩
    · rw [hcache]
      exact mem_names_setRegion state.1 hname
    · rw [hcache, ← hname]
      exact region?_setRegion state.1 region
  · intro region hregion
    rcases horderly.destroy_spec hputs name state.2 with ⟨hmissing, -⟩ |
      ⟨found, results, entries, last, hfound, htold, hresult⟩
    · rw [not_mem_names_iff, hregion] at hmissing
      cases hmissing
    · obtain rfl : region = found := Option.some.inj (hregion.symm.trans hfound)
      have hcache : destroyed.2.1 = state.1.without name :=
        congrArg (fun answer => answer.2.1) hresult
      refine ⟨results, entries, last, htold, hresult, ?_, ?_⟩
      · rw [hcache]
        exact mem_names_without state.1 name
      · rw [hcache]
        exact region?_without state.1 name
  · intro hmissing
    rcases horderly.destroy_spec hputs name state.2 with ⟨-, hresult⟩ |
      ⟨region, results, entries, last, hregion, -, -⟩
    · exact hresult
    · rw [not_mem_names_iff, hregion] at hmissing
      cases hmissing

/-- Notes the names it sees in the cache when it is told something, puts an
entry into each new region, and fails when the region `closed` is created and
when any is destroyed as `onDestroy` says. -/
def noting (label closed : String) (onDestroy : Except CacheError Unit) :
    Listener Datum (List (String × List String)) :=
  ⟨fun event regions region notes =>
    let notes := notes ++ [(label, regions.map Prod.fst)]
    match event with
    | .created =>
        (if region.name = closed then .error (.listener label) else .ok (),
          region.put (.str label) (.object (Snapshot.treeObject .null)), notes)
    | .destroying => (onDestroy, region, notes)⟩

theorem noting_onlyPuts (label closed : String)
    (onDestroy : Except CacheError Unit) :
    (noting label closed onDestroy).OnlyPuts := by
  intro event regions region notes
  cases event with
  | created =>
      exact ⟨_, [(.str label, .object (Snapshot.treeObject .null))], _, rfl⟩
  | destroying => exact ⟨_, [], _, rfl⟩

/-- The second listener refuses one region, and all destructions. -/
def notingListeners : List (Listener Datum (List (String × List String))) :=
  [noting "first" "" (.ok ()),
    noting "second" "Closed" (.error (.listener "second")),
    noting "third" "" (.error (.listener "third"))]

/-- Two of the three fail a destruction, and all three are told of it. -/
theorem noting_results {results : List (Except CacheError Unit)}
    {state last : Cache Datum (List (String × List String)) ×
      List (String × List String)}
    (h : Told .destroying name notingListeners state results last) :
    results = [.ok (), .error (.listener "second"),
      .error (.listener "third")] := by
  rw [notingListeners] at h
  rcases h with - | ⟨-, hfirst, - | ⟨-, hsecond, - | ⟨-, hthird, ⟨⟩⟩⟩⟩
  cases hfirst
  cases hsecond
  cases hthird
  rfl

/-- A region is created and another one refused. -/
def refusedCalls : List (Call Datum) :=
  [.create "Trees", .create "Closed", .create "Trees",
    .remove "Trees" (.str "first")]

/-- The refused region is seen in the cache by two listeners and is gone
afterwards; the destroyed one is seen there by all three. -/
theorem create_destroy_of_run_noting :
    let state := run (⟨[], notingListeners⟩, []) refusedCalls
    let refused := state.1.create "Closed" state.2
    let destroyed := state.1.destroy "Trees" state.2
    refused.2.1 = state.1 ∧
      refused.2.2 = state.2 ++ [("first", ["Closed", "Trees"]),
        ("second", ["Closed", "Trees"])] ∧
      (∀ other, other ∈ (state.1.create "Notes" state.2).2.1.names ↔
        other = "Notes" ∨ other ∈ state.1.names) ∧
      (∃ results last,
        Told .destroying "Trees" notingListeners state results last ∧
        results = [.ok (), .error (.listener "second"),
          .error (.listener "third")]) ∧
      destroyed.1 = .error (.listener "second") ∧
      destroyed.2.2 = state.2 ++ [("first", ["Trees"]), ("second", ["Trees"]),
        ("third", ["Trees"])] ∧
      state.1.destroy "Closed" state.2 = (.ok false, state) := by
  have hputs : ∀ listener ∈ notingListeners, listener.OnlyPuts := by
    intro listener hlistener
    simp only [notingListeners, List.mem_cons, List.not_mem_nil,
      or_false] at hlistener
    rcases hlistener with rfl | rfl | rfl
    · exact noting_onlyPuts _ _ _
    · exact noting_onlyPuts _ _ _
    · exact noting_onlyPuts _ _ _
  obtain ⟨hfails, -, -, hmissing⟩ :=
    create_destroy_of_run hputs [] refusedCalls "Closed"
  obtain ⟨-, hcreates, -, -⟩ :=
    create_destroy_of_run hputs [] refusedCalls "Notes"
  obtain ⟨-, -, hdestroys, -⟩ :=
    create_destroy_of_run hputs [] refusedCalls "Trees"
  obtain ⟨results, entries, last, htold, hdestroyed, -⟩ := hdestroys _ rfl
  refine ⟨(hfails _ rfl).2, rfl, (hcreates _ rfl).2.2.1,
    ⟨results, _, htold, ?_⟩, rfl, rfl, hmissing (by decide)⟩
  exact noting_results htold

end Cache
end RegionSnapshot
