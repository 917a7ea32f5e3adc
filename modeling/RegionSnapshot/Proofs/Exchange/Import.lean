/-
What an import leaves behind.  A document is turned into entries as a whole
before the first entry is put, so an import that fails leaves the region as it
was, at whatever point it fails; one that succeeds fills the region with the
keys of the elements, each with the value of the last element that has it.
-/
import Mathlib.Data.List.Forall2
import RegionSnapshot.Proofs.Exchange.Save

namespace RegionSnapshot

variable {α : Type}

/-- A location that is not found is no fault of an element. -/
theorem RegionResolver.resolve_ne_unresolvableKey {tree : FileTree}
    {region : RegionId} {resolver : RegionResolver} {error : ExchangeError}
    (h : resolver.resolve tree region = .error error) (path : String)
    (index : Nat) : error ≠ .unresolvableKey path index := by
  have hlocation : ∀ (rule : LocationRule) (error : ExchangeError),
      rule.location region = .error error →
        error ≠ .unresolvableKey path index := by
    rintro rule error hrule rfl
    simp only [LocationRule.location, LocationRule.fromTemplate] at hrule
    split at hrule
    · split at hrule
      · cases hrule
      · split at hrule <;> cases hrule
    · cases hrule
  rintro rfl
  cases resolver with
  | nowhere => cases h
  | exporting rule resolver =>
      rcases Outcome.bind_eq_error_iff.1 h with hrule | ⟨location, -, hfound⟩
      · exact hlocation rule _ hrule rfl
      · split at hfound <;> cases hfound
  | importing rule resolver =>
      rcases Outcome.bind_eq_error_iff.1 h with hrule | ⟨location, -, hfound⟩
      · exact hlocation rule _ hrule rfl
      · rcases Outcome.bind_eq_error_iff.1 hfound with hcheck | ⟨_, -, hdone⟩
        · simp only [checkImport] at hcheck
          split at hcheck
          · cases hcheck
          · cases hcheck
          · split at hcheck
            · cases hcheck
            · split at hcheck <;> cases hcheck
        · cases hdone

namespace Exchange

/-- The value that a region keeps of an instance: a typed object if the class
of the instance is registered, else the instance. -/
inductive Stored (registry : Registry α) (p : Portable α) : Value α → Prop
  | typed {object : TypedObject α}
      (registered : registry.contains p.className = true)
      (made : Snapshot.toObject registry p = .ok object) :
      Stored registry p (.object object)
  | untyped (unregistered : registry.contains p.className = false) :
      Stored registry p (.portable p)

variable {registry : Registry α} {region : RegionId} {index : Nat}
variable {p : Portable α}

theorem Stored.unique {value other : Value α} (h : Stored registry p value)
    (h' : Stored registry p other) : value = other := by
  rcases h with ⟨hregistered, hmade⟩ | hunregistered
  · rcases h' with ⟨-, hmade'⟩ | hunregistered
    · rw [hmade, Except.ok.injEq] at hmade'
      rw [hmade']
    · rw [hregistered] at hunregistered
      cases hunregistered
  · rcases h' with ⟨hregistered, -⟩ | -
    · rw [hregistered] at hunregistered
      cases hunregistered
    · rfl

theorem entry_eq_ok_iff {first : Key × Value α} :
    entry registry region index p = .ok first ↔
      p.key? = some first.1 ∧ Stored registry p first.2 := by
  obtain ⟨key, value⟩ := first
  rw [entry]
  cases hkey : p.key? with
  | none => simp
  | some found =>
      dsimp only
      by_cases hcontains : registry.contains p.className = true
      · rw [if_pos hcontains]
        cases hobject : Snapshot.toObject registry p with
        | error cause =>
            constructor
            · intro h
              cases h
            · rintro ⟨-, ⟨-, hmade⟩ | hunregistered⟩
              · rw [hobject] at hmade
                cases hmade
              · rw [hcontains] at hunregistered
                cases hunregistered
        | ok object =>
            have hstored : Stored registry p (.object object) :=
              .typed hcontains hobject
            constructor
            · intro h
              cases h
              exact ⟨rfl, hstored⟩
            · rintro ⟨hfound, hvalue⟩
              cases hfound
              rw [← hstored.unique hvalue]
      · rw [if_neg hcontains]
        rw [Bool.not_eq_true] at hcontains
        have hstored : Stored registry p (.portable p) := .untyped hcontains
        constructor
        · intro h
          cases h
          exact ⟨rfl, hstored⟩
        · rintro ⟨hfound, hvalue⟩
          cases hfound
          rw [← hstored.unique hvalue]

theorem entry_eq_unresolvableKey_iff {path : String} {place : Nat} :
    entry registry region index p = .error (.unresolvableKey path place) ↔
      p.key? = none ∧ path = region.fullPath ∧ place = index := by
  rw [entry]
  cases hkey : p.key? with
  | none => simp [eq_comm]
  | some key =>
      dsimp only
      constructor
      · intro h
        split at h
        · split at h <;> cases h
        · cases h
      · rintro ⟨hnone, -⟩
        cases hnone

/-- Elements with the entries that are made of them. -/
def Entered (registry : Registry α) (instances : List (Portable α))
    (entries : List (Key × Value α)) : Prop :=
  List.Forall₂ (fun p first => p.key? = some first.1 ∧
    Stored registry p first.2) instances entries

/-- Elements become entries one by one. -/
theorem entriesFrom_eq_ok_iff {instances : List (Portable α)}
    {entries : List (Key × Value α)} :
    entriesFrom registry region index instances = .ok entries ↔
      Entered registry instances entries := by
  induction instances generalizing index entries with
  | nil =>
      rw [Entered, List.forall₂_nil_left_iff]
      constructor
      · intro h
        cases h
        rfl
      · rintro rfl
        rfl
  | cons p rest ih =>
      rw [entriesFrom, Outcome.bind_eq_ok_iff]
      constructor
      · rintro ⟨first, hfirst, h⟩
        obtain ⟨others, hothers, heq⟩ := Outcome.bind_eq_ok_iff.1 h
        cases heq
        exact .cons (entry_eq_ok_iff.1 hfirst) (ih.1 hothers)
      · rintro (_ | ⟨hfirst, hothers⟩)
        exact ⟨_, entry_eq_ok_iff.2 hfirst,
          Outcome.bind_eq_ok_iff.2 ⟨_, ih.2 hothers, rfl⟩⟩

/-- Elements are not made entries where the first of them that cannot become
one fails. -/
theorem entriesFrom_eq_error_iff {instances : List (Portable α)}
    {error : ExchangeError} :
    entriesFrom registry region index instances = .error error ↔
      ∃ place p, instances[place]? = some p ∧
        entry registry region (index + place) p = .error error ∧
        ∀ q ∈ instances.take place, ∃ key value,
          q.key? = some key ∧ Stored registry q value := by
  induction instances generalizing index with
  | nil => simp [entriesFrom]
  | cons p rest ih =>
      rw [entriesFrom, Outcome.bind_eq_error_iff]
      constructor
      · rintro (hfirst | ⟨first, hfirst, h⟩)
        · exact ⟨0, p, rfl, hfirst, fun q hq => absurd hq List.not_mem_nil⟩
        · rcases Outcome.bind_eq_error_iff.1 h with hrest | ⟨others, -, hdone⟩
          · obtain ⟨place, q, hq, hentry, hbefore⟩ := ih.1 hrest
            refine ⟨place + 1, q, hq, ?_, ?_⟩
            · rwa [Nat.add_right_comm] at hentry
            · exact List.forall_mem_cons.2
                ⟨⟨_, _, entry_eq_ok_iff.1 hfirst⟩, hbefore⟩
          · cases hdone
      · rintro ⟨place, q, hq, hentry, hbefore⟩
        cases place with
        | zero =>
            cases hq
            exact .inl hentry
        | succ place =>
            rw [List.take_succ_cons, List.forall_mem_cons] at hbefore
            obtain ⟨⟨key, value, hfirst⟩, hbefore⟩ := hbefore
            rw [Nat.add_comm place, ← Nat.add_assoc] at hentry
            exact .inr ⟨(key, value), entry_eq_ok_iff.2 hfirst,
              Outcome.bind_eq_error_iff.2
                (.inl (ih.2 ⟨place, q, hq, hentry, hbefore⟩))⟩

/-- The region holds what a document says: the keys of the instances and no
others, each with the value of the last instance that has it. -/
structure Filled (registry : Registry α) (instances : List (Portable α))
    (region : Region α) : Prop where
  sorted : Entries.Sorted region.entries
  has : ∀ key, Entries.has key region.entries = true ↔
    ∃ p ∈ instances, p.key? = some key
  get : ∀ key value, region.get? key = some value ↔
    ∃ p, instances.reverse.find? (fun q => q.key? = some key) = some p ∧
      Stored registry p value

/-- The first entry with a key is that of the first instance with the key. -/
theorem Entered.get?_eq_some_iff {instances : List (Portable α)}
    {entries : List (Key × Value α)} (h : Entered registry instances entries)
    (key : Key) (value : Value α) :
    Entries.get? key entries = some value ↔
      ∃ p, instances.find? (fun q => q.key? = some key) = some p ∧
        Stored registry p value := by
  induction h with
  | nil => simp [Entries.get?]
  | @cons p first instances entries hfirst _ ih =>
      obtain ⟨other, stored⟩ := first
      obtain ⟨hkey, hstored⟩ := hfirst
      by_cases hother : other = key
      · subst hother
        rw [Entries.get?, if_pos rfl, List.find?_cons_of_pos (by simp [hkey])]
        constructor
        · intro hvalue
          cases hvalue
          exact ⟨p, rfl, hstored⟩
        · rintro ⟨q, hq, hvalue⟩
          cases hq
          exact congrArg some (hstored.unique hvalue)
      · rw [Entries.get?, if_neg hother,
          List.find?_cons_of_neg (by simp [hkey, hother]), ih]

theorem Entered.keys {instances : List (Portable α)}
    {entries : List (Key × Value α)} (h : Entered registry instances entries) :
    instances.map Portable.key? = entries.map (fun first => some first.1) := by
  induction h with
  | nil => rfl
  | cons hfirst _ ih => rw [List.map_cons, List.map_cons, hfirst.1, ih]

theorem Entered.filled {instances : List (Portable α)}
    {entries : List (Key × Value α)} (h : Entered registry instances entries)
    {region : Region α} (hempty : region.entries = []) :
    Filled registry instances (region.putAll entries) := by
  have hget : ∀ key, (region.putAll entries).get? key =
      Entries.get? key entries.reverse := by
    intro key
    rw [Region.putAll, Region.get?, hempty, Entries.get?_insertAll]
    exact Option.or_none
  have hreverse : Entered registry instances.reverse entries.reverse :=
    List.forall₂_reverse_iff.2 h
  have hvalue := hreverse.get?_eq_some_iff
  refine ⟨?_, ?_, ?_⟩
  · rw [Region.putAll, hempty]
    exact Entries.sorted_nil.insertAll entries
  · intro key
    have hkey : key ∈ entries.map Prod.fst ↔
        some key ∈ instances.map Portable.key? := by
      simp [h.keys]
    rw [Region.putAll, hempty, Entries.has_insertAll, Bool.or_eq_true,
      Entries.has_iff_mem, Entries.has_iff_mem, hkey]
    simp
  · intro key value
    rw [hget, hvalue]

variable {x : Exchange α} {tree : FileTree} {bytes : Bytes}

theorem importNow_of_nonempty {region : Region α}
    (h : region.entries ≠ []) : x.importNow tree region = (.ok 0, region) := by
  have hnot : region.isEmpty = false := by
    rw [Region.isEmpty, List.isEmpty_eq_false_iff]
    exact h
  rw [importNow, hnot]
  rfl

/-- An import finds bytes for an empty region, or it ends with the region as
it was and without a fault of an element. -/
theorem finds_or_unchanged (x : Exchange α) (tree : FileTree)
    (region : Region α) :
    (∃ bytes, x.Finds tree region bytes) ∨
      x.importNow tree region = (.ok 0, region) ∨
      ∃ error, x.importNow tree region = (.error error, region) ∧
        ∀ path index, error ≠ .unresolvableKey path index := by
  by_cases hempty : region.entries = []
  · have hisEmpty : region.isEmpty = true := by
      rw [Region.isEmpty, hempty]
      rfl
    rw [importNow, hisEmpty]
    cases hresolve : x.importFrom.resolve tree region.id with
    | error error =>
        exact .inr (.inr ⟨error, rfl,
          RegionResolver.resolve_ne_unresolvableKey hresolve⟩)
    | ok found =>
        cases found with
        | none => exact .inr (.inl rfl)
        | some resource =>
            cases hread : resource.read x.readSize tree with
            | error cause =>
                refine .inr (.inr ⟨.resource cause, ?_, ?_⟩)
                · simp [hread]
                · intro path index h
                  cases h
            | ok bytes => exact .inl ⟨bytes, hempty, resource, hresolve, hread⟩
  · exact .inr (.inl (importNow_of_nonempty hempty))

/-- An import that fails leaves the region as it was. -/
theorem importNow_of_error {region : Region α} {error : ExchangeError}
    (h : (x.importNow tree region).1 = .error error) :
    (x.importNow tree region).2 = region := by
  rcases finds_or_unchanged x tree region with
    ⟨bytes, hfinds⟩ | hsame | ⟨other, hsame, -⟩
  · rw [hfinds.importNow] at h ⊢
    split
    · rfl
    · rename_i entries hentries
      rw [hentries] at h
      cases h
  · rw [hsame]
  · rw [hsame]

theorem entriesOf_of_notBlank {region : RegionId}
    (h : bytes.all isAsciiBlank = false) :
    entriesOf registry region bytes =
      match Snapshot.decode registry bytes with
      | .error cause => .error (.conversion cause)
      | .ok instances => entriesFrom registry region 0 instances := by
  rw [entriesOf, h]
  rfl

/-- An import that succeeds with a document that is not blank makes an entry of
each element and puts the entries one after the other. -/
theorem Finds.exists_entered {region : Region α} {count : Nat}
    (hfinds : x.Finds tree region bytes)
    (hbytes : bytes.all isAsciiBlank = false)
    (h : (x.importNow tree region).1 = .ok count) :
    ∃ instances entries, Snapshot.decode x.registry bytes = .ok instances ∧
      Entered x.registry instances entries ∧
      x.importNow tree region = (.ok entries.length, region.putAll entries) := by
  rw [hfinds.importNow, entriesOf_of_notBlank hbytes] at h ⊢
  cases hdecode : Snapshot.decode x.registry bytes with
  | error cause =>
      rw [hdecode] at h
      cases h
  | ok instances =>
      rw [hdecode] at h
      dsimp only at h ⊢
      cases hentries : entriesFrom x.registry region.id 0 instances with
      | error error =>
          rw [hentries] at h
          cases h
      | ok entries =>
          exact ⟨instances, entries, rfl, entriesFrom_eq_ok_iff.1 hentries, rfl⟩

/-- An import of elements that become entries counts them. -/
theorem Finds.importNow_of_decode {region : Region α} {count : Nat}
    (hfinds : x.Finds tree region bytes)
    (hbytes : bytes.all isAsciiBlank = false)
    {instances : List (Portable α)}
    (hdecode : Snapshot.decode x.registry bytes = .ok instances)
    (hcount : (entriesFrom x.registry region.id 0 instances).map List.length =
      .ok count) :
    (x.importNow tree region).1 = .ok count := by
  obtain ⟨entries, hentries, rfl⟩ := Outcome.map_eq_ok_iff.1 hcount
  rw [hfinds.importNow, entriesOf_of_notBlank hbytes, hdecode]
  dsimp only
  rw [hentries]

/-- An import from a document that is not blank fills the region with its
elements. -/
theorem Finds.filled {region : Region α} {count : Nat}
    (hfinds : x.Finds tree region bytes)
    (hbytes : bytes.all isAsciiBlank = false)
    (h : (x.importNow tree region).1 = .ok count) :
    ∃ instances, Snapshot.decode x.registry bytes = .ok instances ∧
      count = instances.length ∧ (x.importNow tree region).2.id = region.id ∧
      Filled x.registry instances (x.importNow tree region).2 := by
  obtain ⟨instances, entries, hdecode, hentered, himport⟩ :=
    hfinds.exists_entered hbytes h
  rw [himport] at h ⊢
  refine ⟨instances, hdecode, ?_, rfl, hentered.filled hfinds.empty⟩
  rw [hentered.length_eq]
  exact (Except.ok.inj h).symm

theorem Finds.importNow_eq_error_iff {region : Region α}
    (hfinds : x.Finds tree region bytes) {error : ExchangeError} :
    (x.importNow tree region).1 = .error error ↔
      entriesOf x.registry region.id bytes = .error error := by
  rw [hfinds.importNow]
  cases entriesOf x.registry region.id bytes <;> simp

/-- A key is reported as missing exactly for the first element that cannot be
stored, if it has none. -/
theorem Finds.importNow_eq_unresolvableKey_iff {region : Region α}
    (hfinds : x.Finds tree region bytes) {path : String} {index : Nat} :
    (x.importNow tree region).1 = .error (.unresolvableKey path index) ↔
      path = region.fullPath ∧ bytes.all isAsciiBlank = false ∧
      ∃ instances p, Snapshot.decode x.registry bytes = .ok instances ∧
        instances[index]? = some p ∧ p.key? = none ∧
        ∀ q ∈ instances.take index, ∃ key value,
          q.key? = some key ∧ Stored x.registry q value := by
  rw [hfinds.importNow_eq_error_iff]
  cases hbytes : bytes.all isAsciiBlank with
  | true => simp [entriesOf, hbytes]
  | false =>
      rw [entriesOf_of_notBlank hbytes]
      cases hdecode : Snapshot.decode x.registry bytes with
      | error cause => simp
      | ok instances =>
          dsimp only
          rw [entriesFrom_eq_error_iff]
          constructor
          · rintro ⟨place, p, hp, hentry, hbefore⟩
            obtain ⟨hkey, rfl, hindex⟩ := entry_eq_unresolvableKey_iff.1 hentry
            rw [Nat.zero_add] at hindex
            subst hindex
            exact ⟨rfl, rfl, instances, p, rfl, hp, hkey, hbefore⟩
          · rintro ⟨rfl, -, _, p, hinstances, hp, hkey, hbefore⟩
            cases hinstances
            refine ⟨index, p, hp, ?_, hbefore⟩
            rw [Nat.zero_add]
            exact entry_eq_unresolvableKey_iff.2 ⟨hkey, rfl, rfl⟩

/-- An import is all or nothing and exact.  A region with entries stays as it
is and counts none, and so does any region on failure; an import from a
document that is not blank leaves what the document says and no more; and a key
is reported as missing only for the first element that cannot be stored. -/
theorem importNow_exact (x : Exchange α) (tree : FileTree)
    (region : Region α) :
    (region.entries ≠ [] → x.importNow tree region = (.ok 0, region)) ∧
    (∀ error, (x.importNow tree region).1 = .error error →
      (x.importNow tree region).2 = region) ∧
    (∀ bytes count, x.Finds tree region bytes →
      bytes.all isAsciiBlank = false →
      (x.importNow tree region).1 = .ok count →
      ∃ instances, Snapshot.decode x.registry bytes = .ok instances ∧
        count = instances.length ∧
        (x.importNow tree region).2.id = region.id ∧
        Filled x.registry instances (x.importNow tree region).2) ∧
    (∀ path index,
      (x.importNow tree region).1 = .error (.unresolvableKey path index) →
      ∃ bytes instances p, x.Finds tree region bytes ∧
        path = region.fullPath ∧
        Snapshot.decode x.registry bytes = .ok instances ∧
        instances[index]? = some p ∧ p.key? = none ∧
        ∀ q ∈ instances.take index, ∃ key value,
          q.key? = some key ∧ Stored x.registry q value) := by
  refine ⟨importNow_of_nonempty, ?_, ?_, ?_⟩
  · intro error herror
    exact importNow_of_error herror
  · intro bytes count hfinds hbytes hcount
    exact hfinds.filled hbytes hcount
  · intro path index herror
    rcases finds_or_unchanged x tree region with
      ⟨bytes, hfinds⟩ | hsame | ⟨error, hsame, hne⟩
    · obtain ⟨hpath, -, instances, p, hdecode, hp, hkey, hbefore⟩ :=
        hfinds.importNow_eq_unresolvableKey_iff.1 herror
      exact ⟨bytes, instances, p, hfinds, hpath, hdecode, hp, hkey, hbefore⟩
    · rw [hsame] at herror
      cases herror
    · rw [hsame] at herror
      cases herror
      exact absurd rfl (hne path index)

/-- Two elements with one key, of which the second has a registered type. -/
def twiceKeyed : List Json := [
  .obj [("@identifier", .ofInt64 1), ("count", .ofInt64 3)],
  .obj [("@identifier", .ofInt64 1), ("@type", .str "app::Tree"),
    ("id", .str "own")]]

/-- Their document as the snapshot of a region. -/
def twiceTree : FileTree :=
  (FileTree.bare []).plant ["data", "trees.json"]
    (.file (Snapshot.document (.arr twiceKeyed)) .full)

/-- A snapshot below `/data` is found, whichever types are registered. -/
theorem finds_planted (registry : Registry Datum) (bytes : Bytes) :
    { dataExchange with registry := registry }.Finds
      ((FileTree.bare []).plant ["data", "trees.json"] (.file bytes .full))
      (.empty (.root "Trees")) bytes := by
  have hkeeps : { dataExchange with registry := registry }.KeepsAt
      ((FileTree.bare []).plant ["data", "trees.json"] (.file bytes .full))
      (.root "Trees") ["data", "trees.json"] :=
    ⟨⟨"file:///data/trees.json", "/data/trees.json", _, by rfl, by rfl⟩,
      ⟨.file "file:///data/trees.json" "/data/trees.json", _, _, by rfl, rfl,
        by rfl⟩⟩
  exact hkeeps.finds (by rfl) rfl

theorem dataExchange_finds_twice : dataExchange.Finds twiceTree
    (.empty (.root "Trees")) (Snapshot.document (.arr twiceKeyed)) :=
  finds_planted dataExchange.registry _

theorem spells_twiceKeyed :
    Snapshot.Spells (Snapshot.document (.arr twiceKeyed)) (.arr twiceKeyed) := by
  apply Snapshot.spells_elements (by decide)
  · simp only [twiceKeyed, Json.OrderedItems, Json.Ordered, Json.OrderedMembers,
      Entries.Sorted, Json.ofInt64, and_true]
    decide
  · simp [twiceKeyed, Json.NumbersReadBackItems, Json.NumbersReadBack,
      Json.NumbersReadBackMembers, Json.ofInt64, Number.reread?_int]

theorem importNow_twiceTree :
    (dataExchange.importNow twiceTree (.empty (.root "Trees"))).1 = .ok 2 := by
  obtain ⟨instances, hdecode, hcount⟩ : ∃ instances,
      Snapshot.decode dataExchange.registry
        (Snapshot.document (.arr twiceKeyed)) = .ok instances ∧
      (entriesFrom dataExchange.registry (.root "Trees") 0 instances).map
        List.length = .ok 2 :=
    ⟨_, (spells_twiceKeyed.decode_eq_ok_iff rfl).2 (by rfl), by rfl⟩
  exact dataExchange_finds_twice.importNow_of_decode (document_notBlank _)
    hdecode hcount

theorem importNow_exact_twice :
    dataExchange.Finds twiceTree (.empty (.root "Trees"))
        (Snapshot.document (.arr twiceKeyed)) ∧
      (dataExchange.importNow twiceTree (.empty (.root "Trees"))).1 = .ok 2 ∧
      ∃ instances,
        Snapshot.decode Snapshot.treeRegistry
          (Snapshot.document (.arr twiceKeyed)) = .ok instances ∧
        Filled Snapshot.treeRegistry instances
          (dataExchange.importNow twiceTree (.empty (.root "Trees"))).2 := by
  obtain ⟨-, -, hfilled, -⟩ :=
    importNow_exact dataExchange twiceTree (.empty (.root "Trees"))
  obtain ⟨instances, hdecode, -, -, hregion⟩ :=
    hfilled _ 2 dataExchange_finds_twice (document_notBlank _)
      importNow_twiceTree
  exact ⟨dataExchange_finds_twice, importNow_twiceTree, instances, hdecode,
    hregion⟩

end Exchange
end RegionSnapshot
