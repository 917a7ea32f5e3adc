/-
What a region holds after an import.  The number that an import reports is that
of the elements of the document; of several elements with one key only the last
is kept.  What is kept of an element carries an object of the type that the
registry finds under the name in the element; it is kept as this object itself
if the element is native or the type is registered under its own name too.
-/
import Mathlib.Data.List.Dedup
import RegionSnapshot.Proofs.Exchange.Import
import RegionSnapshot.Proofs.Snapshot.KeptNames

namespace RegionSnapshot

variable {α : Type}

namespace Entries

universe u v

variable {κ : Type u} {β : Type v} [LT κ] [DecidableLT κ] [DecidableEq κ]

omit [DecidableLT κ] [DecidableEq κ] in
theorem Sorted.nodup_keys [KeyOrder κ] {entries : List (κ × β)}
    (h : Sorted entries) : (entries.map Prod.fst).Nodup := by
  rw [List.Nodup, List.pairwise_map]
  apply h.imp
  intro first second hlt heq
  exact KeyOrder.irrefl _ (heq ▸ hlt)

/-- Entries put one after the other leave one entry for each key. -/
theorem length_insertAll [KeyOrder κ] (entries : List (κ × β)) :
    (insertAll [] entries).length = (entries.map Prod.fst).dedup.length := by
  have hsorted : Sorted (insertAll [] entries) := sorted_nil.insertAll entries
  have hmem : ∀ key, key ∈ (insertAll [] entries).map Prod.fst ↔
      key ∈ (entries.map Prod.fst).dedup := by
    intro key
    rw [List.mem_dedup, ← has_iff_mem, ← has_iff_mem, has_insertAll]
    simp [has, get?]
  have hperm := (List.perm_ext_iff_of_nodup hsorted.nodup_keys
    (List.nodup_dedup _)).2 hmem
  rw [← hperm.length_eq, List.length_map]

end Entries

namespace Exchange

/-- The elements of a document with the instances that they are read as.  A
blank document has none. -/
inductive Reads (registry : Registry α) (bytes : Bytes) :
    List Json → List (Portable α) → Prop
  | blank (isBlank : bytes.all isAsciiBlank = true) :
      Reads registry bytes [] []
  | elements {json : Json} {elements : List Json}
      {instances : List (Portable α)}
      (notBlank : bytes.all isAsciiBlank = false)
      (spells : Snapshot.Spells bytes json)
      (listed : json.elements? = some elements)
      (made : elements.mapM (Portable.ofElement registry Stage.standard) =
        .ok instances) :
      Reads registry bytes elements instances

namespace Reads

variable {registry : Registry α} {bytes : Bytes}
variable {elements : List Json} {instances : List (Portable α)}

/-- A document is read as these elements and these instances only. -/
theorem unique (h : Reads registry bytes elements instances)
    {others : List Json} {found : List (Portable α)}
    (hother : Reads registry bytes others found) :
    elements = others ∧ instances = found := by
  rcases h with hblank | ⟨hbytes, hspells, hlisted, hmade⟩
  · rcases hother with - | ⟨hbytes, -, -, -⟩
    · exact ⟨rfl, rfl⟩
    · rw [hblank] at hbytes
      cases hbytes
  · rcases hother with hblank | ⟨-, hspells', hlisted', hmade'⟩
    · rw [hblank] at hbytes
      cases hbytes
    · obtain rfl := hspells.unique hspells'
      obtain rfl := Option.some.inj (hlisted.symm.trans hlisted')
      exact ⟨rfl, Except.ok.inj (hmade.symm.trans hmade')⟩

theorem mapM_eq (h : Reads registry bytes elements instances) :
    elements.mapM (Portable.ofElement registry Stage.standard) =
      .ok instances := by
  rcases h with - | ⟨-, -, -, hmade⟩
  · rfl
  · exact hmade

theorem ordered (h : Reads registry bytes elements instances) :
    ∀ element ∈ elements, element.Ordered := by
  rcases h with - | ⟨-, hspells, hlisted, -⟩
  · exact fun element helement => absurd helement List.not_mem_nil
  · exact Json.orderedItems_iff.1 (hspells.ordered.elements? hlisted)

/-- An instance stands at the place of its element. -/
theorem exists_element (h : Reads registry bytes elements instances)
    {place : Nat} {p : Portable α} (hp : instances[place]? = some p) :
    ∃ element, elements[place]? = some element ∧ element.Ordered ∧
      Portable.ofElement registry Stage.standard element = .ok p := by
  have hplace := Outcome.getElem?_mapM h.mapM_eq place
  rw [hp, Option.map_some] at hplace
  obtain ⟨element, helement, hread⟩ := Option.map_eq_some_iff.1 hplace
  exact ⟨element, helement, h.ordered element (List.mem_of_getElem? helement),
    hread⟩

end Reads

variable {x : Exchange α} {tree : FileTree} {region : Region α}
variable {bytes : Bytes} {count : Nat}

/-- An import that succeeds reads the document, makes an entry of each element
and puts the entries one after the other. -/
theorem Finds.exists_reads (hfinds : x.Finds tree region bytes)
    (hcount : (x.importNow tree region).1 = .ok count) :
    ∃ elements instances entries, Reads x.registry bytes elements instances ∧
      Entered x.registry instances entries ∧
      x.importNow tree region = (.ok entries.length, region.putAll entries) := by
  cases hbytes : bytes.all isAsciiBlank with
  | true =>
      have hnone : entriesOf x.registry region.id bytes = .ok [] := by
        rw [entriesOf, if_pos hbytes]
      refine ⟨[], [], [], .blank hbytes, .nil, ?_⟩
      rw [hfinds.importNow, hnone]
  | false =>
      obtain ⟨instances, entries, hdecode, hentered, himport⟩ :=
        hfinds.exists_entered hbytes hcount
      obtain ⟨json, hspells, hread⟩ := Snapshot.decode_eq_ok_iff.1 hdecode
      obtain ⟨elements, hlisted, hmade⟩ :=
        Portable.ofElements_eq_ok_iff.1 hread
      exact ⟨elements, instances, entries,
        .elements hbytes hspells hlisted hmade, hentered, himport⟩

/-- An import counts the elements of the document.  The region then has one
entry for each of their keys, so it has as many entries as were counted just if
no two elements have one key. -/
theorem importNow_size_iff (hfinds : x.Finds tree region bytes)
    (hcount : (x.importNow tree region).1 = .ok count) :
    ∃ elements instances, Reads x.registry bytes elements instances ∧
      count = elements.length ∧
      (∀ p ∈ instances, ∃ key, p.key? = some key) ∧
      (x.importNow tree region).2.size =
        (instances.map Portable.key?).dedup.length ∧
      ((x.importNow tree region).2.size = count ↔
        (instances.map Portable.key?).Nodup) := by
  obtain ⟨elements, instances, entries, hreads, hentered, himport⟩ :=
    hfinds.exists_reads hcount
  have hlength : entries.length = elements.length := by
    rw [← hentered.length_eq]
    exact (Outcome.mapM_in_place hreads.mapM_eq).1
  have hkeys : instances.map Portable.key? =
      (entries.map Prod.fst).map some := by
    rw [hentered.keys, List.map_map]
    rfl
  have hsize : (x.importNow tree region).2.size =
      (instances.map Portable.key?).dedup.length := by
    rw [himport, Region.size, Region.putAll, hfinds.empty,
      Entries.length_insertAll, hkeys,
      List.dedup_map_of_injective (fun _ _ => Option.some.inj),
      List.length_map]
  rw [himport] at hcount
  obtain rfl := Except.ok.inj hcount
  refine ⟨elements, instances, hreads, hlength, ?_, hsize, ?_⟩
  · intro p hp
    have hkey : p.key? ∈ instances.map Portable.key? :=
      List.mem_map_of_mem hp
    rw [hkeys] at hkey
    obtain ⟨key, -, hkey⟩ := List.mem_map.1 hkey
    exact ⟨key, hkey.symm⟩
  · have hall : (instances.map Portable.key?).length = entries.length := by
      rw [List.length_map, hentered.length_eq]
    rw [hsize, ← List.dedup_eq_self, ← hall]
    constructor
    · exact (List.dedup_sublist _).eq_of_length
    · intro heq
      rw [heq]

/-- Two elements with one key are counted as two and kept as one entry. -/
theorem importNow_size_iff_twice :
    dataExchange.Finds twiceTree (.empty (.root "Trees"))
        (Snapshot.document (.arr twiceKeyed)) ∧
      (dataExchange.importNow twiceTree (.empty (.root "Trees"))).1 = .ok 2 ∧
      (dataExchange.importNow twiceTree (.empty (.root "Trees"))).2.size = 1 := by
  obtain ⟨elements, instances, hreads, -, -, hsize, -⟩ :=
    importNow_size_iff dataExchange_finds_twice importNow_twiceTree
  obtain ⟨found, hmade, hkeys⟩ : ∃ found,
      twiceKeyed.mapM (Portable.ofElement dataExchange.registry
        Stage.standard) = .ok found ∧
      found.map Portable.key? = [some (.int 1), some (.int 1)] :=
    ⟨_, by rfl, by rfl⟩
  obtain ⟨-, rfl⟩ := hreads.unique
    (.elements (document_notBlank _) spells_twiceKeyed rfl hmade)
  refine ⟨dataExchange_finds_twice, importNow_twiceTree, ?_⟩
  rw [hsize, hkeys]
  rfl

/-- The last of the instances with a key, with its place. -/
structure LastKeyed (instances : List (Portable α)) (key : Key) (place : Nat)
    (p : Portable α) : Prop where
  placed : instances[place]? = some p
  keyed : p.key? = some key
  last : ∀ later q, place < later → instances[later]? = some q →
    q.key? ≠ some key

theorem exists_lastKeyed {instances : List (Portable α)} {key : Key}
    {p : Portable α}
    (h : instances.reverse.find? (fun q => q.key? = some key) = some p) :
    ∃ place, LastKeyed instances key place p := by
  obtain ⟨hkey, after, before, hsplit, hafter⟩ :=
    List.find?_eq_some_iff_append.1 h
  have hinstances : instances = before.reverse ++ p :: after.reverse := by
    rw [← List.reverse_reverse instances, hsplit, List.reverse_append,
      List.reverse_cons, List.append_assoc]
    rfl
  refine ⟨before.reverse.length, ?_, of_decide_eq_true hkey, ?_⟩
  · rw [hinstances, List.getElem?_append_right (Nat.le_refl _), Nat.sub_self]
    rfl
  -- What is behind the place was searched before it.
  · intro later q hlater hq
    obtain ⟨distance, rfl⟩ := Nat.exists_eq_add_of_lt hlater
    rw [hinstances, List.getElem?_append_right (by omega)] at hq
    have hmem : q ∈ after := by
      rw [← List.mem_reverse]
      apply List.mem_of_getElem?
      rwa [Nat.add_assoc, Nat.add_sub_cancel_left, List.getElem?_cons_succ]
        at hq
    simpa using hafter q hmem

/-- What is kept of an element carries an object of the type that is registered
under the name in the element.  It is kept as an object if the element is native
or the type is registered under its own name. -/
theorem Stored.typed_iff {registry : Registry α} {element : Json}
    {p : Portable α} {value : Value α} {name : String} {type : ObjectType α}
    (hordered : element.Ordered)
    (hread : Portable.ofElement registry Stage.standard element = .ok p)
    (hstored : Stored registry p value)
    (hname : element.get? typeMember = some (.str name))
    (hfound : registry.find? name = some type) :
    (∃ object, value.object? = some object ∧ object.type = type) ∧
      (value.isPortable = false ↔
        element.Native ∨ registry.contains type.name = true) := by
  have hof : ∀ {members : List (String × Json)} {other : String}
      {found : ObjectType α}, element = .obj members →
      typeNameOf? members = some other → registry.find? other = some found →
        found = type := by
    rintro members other found rfl hother hfound'
    have hmember : Entries.get? typeMember members = some (.str other) :=
      (typeNameOf?_eq_some_iff.1 hother).1
    obtain rfl := Json.str.inj (Option.some.inj (hmember.symm.trans hname))
    exact Option.some.inj (hfound'.symm.trans hfound)
  obtain ⟨members, rfl, ⟨hnative, hholds⟩ | ⟨hnot, object, form, hobject,
    hcaptures⟩⟩ := Stage.ofElement_cases hordered hread
  · obtain rfl := Json.str.inj (hholds.eq_className hname)
    have hcontains : registry.contains p.className = true := by
      rw [Registry.contains, hfound]
      rfl
    rcases hstored with ⟨-, hmade⟩ | hunregistered
    · obtain ⟨other, found, hother, -, hfound', hmade⟩ :=
        (Snapshot.toObject_eq_ok_iff hordered hholds).1 hmade
      obtain rfl := hof rfl hother hfound'
      exact ⟨⟨_, rfl, (ObjectType.exists_read_of_materialize hmade).1⟩,
        iff_of_true rfl (.inl hnative)⟩
    · rw [hcontains] at hunregistered
      cases hunregistered
  -- The instance is named after the type, whichever name the element gave.
  · obtain ⟨other, found, hother, hfound', hmade⟩ :=
      Registry.readObject_eq_ok_iff.1 hobject
    obtain rfl := hof rfl hother hfound'
    have htype := (ObjectType.exists_read_of_materialize hmade).1
    have hclass : p.className = found.name := by
      rw [hcaptures.className, TypedObject.typeName, htype]
    rw [or_iff_right hnot, ← hclass]
    rcases hstored with ⟨hregistered, hmade⟩ | hunregistered
    · rw [Snapshot.toObject_of_object hcaptures.carried] at hmade
      obtain rfl := Except.ok.inj hmade
      exact ⟨⟨_, rfl, htype⟩, iff_of_true rfl hregistered⟩
    · refine ⟨⟨object, hcaptures.carried, htype⟩, iff_of_false ?_ ?_⟩
      · exact Bool.noConfusion
      · rw [hunregistered]
        exact Bool.noConfusion

/-- An import keeps of the last element with a key an object of the type that is
registered under the name in the element: by itself if the element is native or
the type is registered under its own name too, and else in an instance. -/
theorem importNow_typed_iff (hfinds : x.Finds tree region bytes)
    (hcount : (x.importNow tree region).1 = .ok count) :
    ∃ elements instances, Reads x.registry bytes elements instances ∧
      ∀ key value, (x.importNow tree region).2.get? key = some value →
        ∃ place element p, elements[place]? = some element ∧
          LastKeyed instances key place p ∧
          ∀ name type, element.get? typeMember = some (.str name) →
            x.registry.find? name = some type →
            (∃ object, value.object? = some object ∧ object.type = type) ∧
            (value.isPortable = false ↔
              element.Native ∨ x.registry.contains type.name = true) := by
  obtain ⟨elements, instances, entries, hreads, hentered, himport⟩ :=
    hfinds.exists_reads hcount
  refine ⟨elements, instances, hreads, ?_⟩
  rw [himport]
  intro key value hvalue
  obtain ⟨p, hp, hstored⟩ :=
    ((hentered.filled hfinds.empty).get key value).1 hvalue
  obtain ⟨place, hlast⟩ := exists_lastKeyed hp
  obtain ⟨element, helement, hordered, hread⟩ :=
    hreads.exists_element hlast.placed
  refine ⟨place, element, p, helement, hlast, ?_⟩
  intro name type hname hfound
  exact hstored.typed_iff hordered hread hname hfound

/-- Two grids under a name that is not the own one of their type: one without
rows, which is native, and one with a row, which is not. -/
def legacyGrids : List Json :=
  [Snapshot.gridElement 1 "legacy::Grid" [],
    Snapshot.gridElement 2 "legacy::Grid" [.arr []]]

theorem spells_legacyGrids :
    Snapshot.Spells (Snapshot.document (.arr legacyGrids))
      (.arr legacyGrids) := by
  apply Snapshot.spells_elements (by decide)
  · simp only [legacyGrids, Snapshot.gridElement, Json.OrderedItems,
      Json.Ordered, Json.OrderedMembers, Entries.Sorted, Json.ofInt64, and_true]
    decide
  · simp [legacyGrids, Snapshot.gridElement, Json.NumbersReadBackItems,
      Json.NumbersReadBack, Json.NumbersReadBackMembers, Json.ofInt64,
      Number.reread?_int]

/-- Regions below `/data` are read by a registry that knows a type under another
name only. -/
def legacyExchange : Exchange Datum :=
  { dataExchange with registry := Snapshot.legacyRegistry }

def legacyTree : FileTree :=
  (FileTree.bare []).plant ["data", "trees.json"]
    (.file (Snapshot.document (.arr legacyGrids)) .full)

theorem legacyExchange_finds : legacyExchange.Finds legacyTree
    (.empty (.root "Trees")) (Snapshot.document (.arr legacyGrids)) :=
  finds_planted Snapshot.legacyRegistry _

theorem decode_legacyGrids : ∃ first second,
    Snapshot.decode legacyExchange.registry
      (Snapshot.document (.arr legacyGrids)) = .ok [first, second] ∧
    first.key? = some (.int 1) ∧ second.key? = some (.int 2) ∧
    (entriesFrom legacyExchange.registry (.root "Trees") 0
      [first, second]).map List.length = .ok 2 :=
  ⟨_, _, (spells_legacyGrids.decode_eq_ok_iff rfl).2 (by rfl), by rfl, by rfl,
    by rfl⟩

theorem importNow_legacyTree :
    (legacyExchange.importNow legacyTree (.empty (.root "Trees"))).1 =
      .ok 2 := by
  obtain ⟨first, second, hdecode, -, -, hcount⟩ := decode_legacyGrids
  exact legacyExchange_finds.importNow_of_decode (document_notBlank _) hdecode
    hcount

/-- The grid without rows is kept as an object, and the one with a row in an
instance that carries an object of the same type. -/
theorem importNow_typed_iff_legacy :
    legacyExchange.Finds legacyTree (.empty (.root "Trees"))
        (Snapshot.document (.arr legacyGrids)) ∧
      (legacyExchange.importNow legacyTree (.empty (.root "Trees"))).1 =
        .ok 2 ∧
      ∃ first second region,
        (legacyExchange.importNow legacyTree (.empty (.root "Trees"))).2 =
          region ∧
        region.get? (.int 1) = some first ∧ first.isPortable = false ∧
        region.get? (.int 2) = some second ∧ second.isPortable = true ∧
        ∃ object, second.object? = some object ∧
          object.typeName = "app::Grid" := by
  obtain ⟨elements, instances, hreads, hkept⟩ :=
    importNow_typed_iff legacyExchange_finds importNow_legacyTree
  obtain ⟨one, two, hdecode, hone, htwo, -⟩ := decode_legacyGrids
  have hmade := (spells_legacyGrids.decode_eq_ok_iff rfl).1 hdecode
  obtain ⟨rfl, rfl⟩ := hreads.unique
    (.elements (document_notBlank _) spells_legacyGrids rfl hmade)
  obtain ⟨_, hdecode', -, -, hfilled⟩ := legacyExchange_finds.filled
    (document_notBlank _) importNow_legacyTree
  obtain rfl := Except.ok.inj (hdecode.symm.trans hdecode')
  have hfound : ∀ key, (∃ p ∈ [one, two], p.key? = some key) → ∃ value,
      (legacyExchange.importNow legacyTree (.empty (.root "Trees"))).2.get?
        key = some value :=
    fun key hkey => Option.isSome_iff_exists.1 ((hfilled.has key).2 hkey)
  obtain ⟨first, hfirst⟩ := hfound (.int 1) ⟨one, by simp, hone⟩
  obtain ⟨second, hsecond⟩ := hfound (.int 2) ⟨two, by simp, htwo⟩
  have hplace : ∀ {place p key}, LastKeyed [one, two] key place p →
      place = 0 ∧ key = .int 1 ∨ place = 1 ∧ key = .int 2 := by
    intro place p key hlast
    match place, hlast.placed with
    | 0, hp =>
        obtain rfl := Option.some.inj hp
        exact .inl ⟨rfl, Option.some.inj (hlast.keyed.symm.trans hone)⟩
    | 1, hp =>
        obtain rfl := Option.some.inj hp
        exact .inr ⟨rfl, Option.some.inj (hlast.keyed.symm.trans htwo)⟩
  have hdistinct : (Key.int 1) ≠ .int 2 := by decide
  obtain ⟨_, element, p, helement, hlast, htyped⟩ := hkept _ _ hfirst
  obtain ⟨rfl, -⟩ := (hplace hlast).resolve_right
    (fun h => hdistinct h.2)
  obtain rfl := Option.some.inj helement
  have hobject := (htyped "legacy::Grid" _ rfl rfl).2
  obtain ⟨_, element, p, helement, hlast, htyped⟩ := hkept _ _ hsecond
  obtain ⟨rfl, -⟩ := (hplace hlast).resolve_left
    (fun h => hdistinct h.2.symm)
  obtain rfl := Option.some.inj helement
  obtain ⟨⟨object, hcarried, htype⟩, hportable⟩ :=
    htyped "legacy::Grid" _ rfl rfl
  have hnative : (Snapshot.gridElement 1 "legacy::Grid" []).Native := by
    rw [← Json.isNative_iff]
    rfl
  have hnested : ¬((Snapshot.gridElement 2 "legacy::Grid" [.arr []]).Native ∨
      legacyExchange.registry.contains "app::Grid" = true) := by
    rw [← Json.isNative_iff]
    decide
  refine ⟨legacyExchange_finds, importNow_legacyTree, first, second, _, rfl,
    hfirst, hobject.2 (.inl hnative), hsecond, ?_, object, hcarried, ?_⟩
  · rw [← Bool.not_eq_false]
    exact fun h => hnested (hportable.1 h)
  · rw [TypedObject.typeName, htype]
    rfl

end Exchange
end RegionSnapshot
