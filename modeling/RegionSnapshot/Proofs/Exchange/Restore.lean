/-
What an import makes of an exported region.  A snapshot is written of whatever
a region holds, but not every element can be imported again: the type of a
typed element must be registered and read its payload where no instance can
hold the element, and where one can but its class is registered.  The import
restores all keys of the region exactly if its document is read back and each
element can be imported; otherwise it fails and the region stays empty.
-/
import RegionSnapshot.Exchange.Basic
import RegionSnapshot.Proofs.Snapshot.RoundTrip

namespace RegionSnapshot

open Json

variable {α : Type}

namespace Snapshot

/-- An element can be imported: an instance holds it whose class is not
registered; or an instance holds it and its class reads what is rendered of it;
or no instance holds it, and its class reads its payload and can write what it
read. -/
inductive Importable (registry : Registry α)
    (members : List (String × Json)) : Prop
  | untyped (native : areNativeMembers members = true)
      (unregistered : registry.contains
        ((typeNameOf? members).getD noClassName) = false)
  | typed {name : String} {type : ObjectType α} {object : TypedObject α}
      (native : areNativeMembers members = true)
      (named : typeNameOf? members = some name) (proper : name ≠ noClassName)
      (found : registry.find? name = some type)
      (reads : type.materialize
        (.obj (membersWithoutReserved (payloadMembers members))) = .ok object)
  | fallback {name : String} {type : ObjectType α} {object : TypedObject α}
      {json : Json} (refused : areNativeMembers members = false)
      (named : typeNameOf? members = some name)
      (found : registry.find? name = some type)
      (reads : type.materialize (.obj (payloadMembers members)) = .ok object)
      (writes : object.toJson = .ok json)

end Snapshot

namespace Portable

theorem Holds.className_eq_getD {p : Portable α}
    {members : List (String × Json)} (h : p.Holds members) :
    p.className = (typeNameOf? members).getD noClassName := by
  cases hname : typeNameOf? members with
  | some name => exact h.className_eq hname
  | none =>
      have hclass := h.className
      cases hget : Entries.get? typeMember members with
      | none =>
          rw [hget] at hclass
          exact (Except.ok.inj hclass).symm
      | some value =>
          rw [hget, Option.map_some, Option.getD_some,
            Field.classOfMember_eq_ok_iff] at hclass
          obtain ⟨rfl, hblank⟩ := hclass
          rw [typeNameOf?_eq_some_iff.2 ⟨hget, hblank⟩] at hname
          cases hname

end Portable

namespace Exchange

theorem entry_isOk_iff {registry : Registry α} {region : RegionId}
    {index : Nat} {p : Portable α} {key : Key} (hkey : p.key? = some key) :
    (∃ first, entry registry region index p = .ok first) ↔
      registry.contains p.className = true →
        ∃ object, Snapshot.toObject registry p = .ok object := by
  by_cases hcontains : registry.contains p.className = true
  · cases hobject : Snapshot.toObject registry p <;>
      simp [entry, hkey, hcontains, hobject]
  · simp [entry, hkey, hcontains]

theorem key?_of_entry {registry : Registry α} {region : RegionId}
    {index : Nat} {p : Portable α} {first : Key × Value α}
    (h : entry registry region index p = .ok first) :
    p.key? = some first.1 := by
  cases hkey : p.key? with
  | none => simp [entry, hkey] at h
  | some key =>
      simp only [entry, hkey] at h
      split at h
      · split at h
        · cases h
          rfl
        · cases h
      · cases h
        rfl

/-- The key of an element is the key of the instance that it is read as. -/
theorem key?_of_element {registry : Registry α}
    {members : List (String × Json)} {key : Key}
    (hsorted : Entries.Sorted members)
    (hkey : Entries.get? identifierMember members = some key.toJson)
    {p : Portable α}
    (h : Portable.ofElement registry Stage.standard (.obj members) = .ok p) :
    p.key? = some key := by
  rcases Stage.ofElement_obj_eq_ok_iff.1 h with hp | ⟨-, hp⟩
  · have hholds := Portable.holds_of_instanceOfMembers hsorted hp
    exact Portable.key?_of_identifier (hholds.identifier_eq_some hkey)
  · obtain ⟨object, q, -, -, rfl⟩ := (Stage.readTyped_eq_ok_iff hkey).1 hp
    rfl

/-- An element that is read and becomes an entry can be imported. -/
theorem importable_of_entry {registry : Registry α}
    {members : List (String × Json)} {key : Key}
    (hordered : (Json.obj members).Ordered)
    (hkey : Entries.get? identifierMember members = some key.toJson)
    {region : RegionId} {index : Nat} {p : Portable α} {first : Key × Value α}
    (hp : Portable.ofElement registry Stage.standard (.obj members) = .ok p)
    (hentry : entry registry region index p = .ok first) :
    Snapshot.Importable registry members := by
  have hobject := (entry_isOk_iff (key?_of_element hordered.1 hkey hp)).1
    ⟨first, hentry⟩
  rcases Stage.ofElement_obj_eq_ok_iff.1 hp with hread | ⟨hrefused, hread⟩
  · have hholds := Portable.holds_of_instanceOfMembers hordered.1 hread
    have hnative := hholds.areNative hordered.1
    by_cases hcontains : registry.contains p.className = true
    · obtain ⟨object, hmade⟩ := hobject hcontains
      obtain ⟨name, type, hname, hproper, hfound, hreads⟩ :=
        (Snapshot.toObject_eq_ok_iff hordered hholds).1 hmade
      exact .typed hnative hname hproper hfound hreads
    · rw [hholds.className_eq_getD, Bool.not_eq_true] at hcontains
      exact .untyped hnative hcontains
  · obtain ⟨object, q, hmade, hof, -⟩ :=
      (Stage.readTyped_eq_ok_iff hkey).1 hread
    obtain ⟨name, type, hname, hfound, hreads⟩ :=
      Registry.readObject_eq_ok_iff.1 hmade
    obtain ⟨json, hjson⟩ := Portable.ofObject_isOk_iff.1 ⟨q, hof⟩
    exact .fallback hrefused hname hfound hreads hjson

/-- An element that can be imported is read as an instance, and this gives an
object where its class is registered. -/
theorem exists_instance_of_importable {registry : Registry α}
    {members : List (String × Json)} {key : Key}
    (hordered : (Json.obj members).Ordered)
    (hkey : Entries.get? identifierMember members = some key.toJson)
    (h : Snapshot.Importable registry members) :
    ∃ p, Portable.ofElement registry Stage.standard (.obj members) = .ok p ∧
      (registry.contains p.className = true →
        ∃ object, Snapshot.toObject registry p = .ok object) := by
  cases h with
  | untyped hnative hunregistered =>
      obtain ⟨p, hread, hholds⟩ :=
        Stage.exists_ofElement_of_native registry hordered.1 hnative
      refine ⟨p, hread, fun hcontains => ?_⟩
      rw [hholds.className_eq_getD, hunregistered] at hcontains
      cases hcontains
  | typed hnative hname hproper hfound hreads =>
      obtain ⟨p, hread, hholds⟩ :=
        Stage.exists_ofElement_of_native registry hordered.1 hnative
      exact ⟨p, hread, fun _ => ⟨_, (Snapshot.toObject_eq_ok_iff hordered
        hholds).2 ⟨_, _, hname, hproper, hfound, hreads⟩⟩⟩
  | fallback hrefused hname hfound hreads hwrites =>
      obtain ⟨q, hof⟩ := Portable.ofObject_isOk_iff.2 ⟨_, hwrites⟩
      have hmade := Registry.readObject_eq_ok_iff.2
        ⟨_, _, hname, hfound, hreads⟩
      have hread := Stage.ofElement_obj_eq_ok_iff.2
        (.inr ⟨hrefused, (Stage.readTyped_eq_ok_iff hkey).2
          ⟨_, q, hmade, hof, rfl⟩⟩)
      exact ⟨_, hread, fun _ => ⟨_, Snapshot.toObject_of_object
        (Portable.ofObject_eq_ok hof).2⟩⟩

/-- Reading an element and making an entry of it succeed exactly if it can be
imported. -/
theorem element_isOk_iff (registry : Registry α)
    {members : List (String × Json)} {key : Key}
    (hordered : (Json.obj members).Ordered)
    (hkey : Entries.get? identifierMember members = some key.toJson)
    (region : RegionId) (index : Nat) :
    (∃ p first,
      Portable.ofElement registry Stage.standard (.obj members) = .ok p ∧
        entry registry region index p = .ok first) ↔
      Snapshot.Importable registry members := by
  constructor
  · rintro ⟨p, first, hp, hentry⟩
    exact importable_of_entry hordered hkey hp hentry
  · intro h
    obtain ⟨p, hp, hobject⟩ := exists_instance_of_importable hordered hkey h
    obtain ⟨first, hentry⟩ :=
      (entry_isOk_iff (key?_of_element hordered.1 hkey hp)).2 hobject
    exact ⟨p, first, hp, hentry⟩

theorem entriesFrom_cons_isOk_iff {registry : Registry α} {region : RegionId}
    {index : Nat} {p : Portable α} {rest : List (Portable α)} :
    (∃ found, entriesFrom registry region index (p :: rest) = .ok found) ↔
      (∃ first, entry registry region index p = .ok first) ∧
        ∃ others, entriesFrom registry region (index + 1) rest = .ok others := by
  rw [entriesFrom]
  exact Outcome.both_isOk_iff

/-- The members of an ordered element with its key. -/
structure Keyed (pair : Key × List (String × Json)) : Prop where
  ordered : (Json.obj pair.2).Ordered
  key : Entries.get? identifierMember pair.2 = some pair.1.toJson

/-- Elements are read and become entries exactly if each can be imported. -/
theorem elements_isOk_iff (registry : Registry α)
    {pairs : List (Key × List (String × Json))}
    (h : ∀ pair ∈ pairs, Keyed pair) (region : RegionId) (index : Nat) :
    (∃ instances found,
      (pairs.map (fun pair => Json.obj pair.2)).mapM
        (Portable.ofElement registry Stage.standard) = .ok instances ∧
      entriesFrom registry region index instances = .ok found) ↔
      ∀ pair ∈ pairs, Snapshot.Importable registry pair.2 := by
  induction pairs generalizing index with
  | nil =>
      constructor
      · intro _ pair hpair
        cases hpair
      · intro _
        exact ⟨[], [], rfl, rfl⟩
  | cons pair rest ih =>
      have hpair := h pair List.mem_cons_self
      have hfirst := element_isOk_iff registry hpair.ordered hpair.key region
        index
      have hrest := ih (fun other hother =>
        h other (List.mem_cons_of_mem pair hother)) (index + 1)
      rw [List.forall_mem_cons, ← hfirst, ← hrest]
      constructor
      · rintro ⟨instances, found, hread, hfound⟩
        rw [List.map_cons, List.mapM_cons] at hread
        obtain ⟨p, hp, hread⟩ := Outcome.bind_eq_ok_iff.1 hread
        obtain ⟨others, hothers, hread⟩ := Outcome.bind_eq_ok_iff.1 hread
        cases hread
        obtain ⟨⟨first, hentry⟩, more, hmore⟩ :=
          entriesFrom_cons_isOk_iff.1 ⟨found, hfound⟩
        exact ⟨⟨p, first, hp, hentry⟩, others, more, hothers, hmore⟩
      · rintro ⟨⟨p, first, hp, hentry⟩, others, more, hothers, hmore⟩
        obtain ⟨found, hfound⟩ :=
          entriesFrom_cons_isOk_iff.2 ⟨⟨first, hentry⟩, more, hmore⟩
        refine ⟨p :: others, found, ?_, hfound⟩
        rw [List.map_cons, List.mapM_cons, hp, hothers]
        rfl

/-- The entries of elements have the keys of the elements. -/
theorem keys_of_elements {registry : Registry α}
    {pairs : List (Key × List (String × Json))}
    (h : ∀ pair ∈ pairs, Keyed pair) {region : RegionId} {index : Nat}
    {instances : List (Portable α)} {found : List (Key × Value α)}
    (hread : (pairs.map (fun pair => Json.obj pair.2)).mapM
      (Portable.ofElement registry Stage.standard) = .ok instances)
    (hfound : entriesFrom registry region index instances = .ok found) :
    found.map Prod.fst = pairs.map Prod.fst := by
  induction pairs generalizing index instances found with
  | nil =>
      cases hread
      cases hfound
      rfl
  | cons pair rest ih =>
      have hpair := h pair List.mem_cons_self
      rw [List.map_cons, List.mapM_cons] at hread
      obtain ⟨p, hp, hread⟩ := Outcome.bind_eq_ok_iff.1 hread
      obtain ⟨others, hothers, hread⟩ := Outcome.bind_eq_ok_iff.1 hread
      cases hread
      obtain ⟨first, hentry, hfound⟩ := Outcome.bind_eq_ok_iff.1 hfound
      obtain ⟨more, hmore, hfound⟩ := Outcome.bind_eq_ok_iff.1 hfound
      cases hfound
      have hkey := key?_of_element hpair.ordered.1 hpair.key hp
      rw [key?_of_entry hentry, Option.some.injEq] at hkey
      rw [List.map_cons, List.map_cons, hkey,
        ih (fun other hother => h other (List.mem_cons_of_mem pair hother))
          hothers hmore]

/-- What an element is read back as is keyed like the element. -/
theorem keyed_of_reread {entry : Key × Value α} {element read : Json}
    {room : Nat} (hordered : entry.2.Ordered)
    (hrender : Snapshot.renderEntry entry = .ok element)
    (hread : reread? room element = some read) :
    ∃ members, read = .obj members ∧ Keyed (entry.1, members) := by
  obtain ⟨written, rfl, hwritten, hkey⟩ :=
    Snapshot.exists_renderEntry hordered hrender
  have hreadOrdered := hwritten.reread? hread
  rw [reread?] at hread
  split at hread
  · cases hread
  · obtain ⟨members, hmembers, rfl⟩ := Option.map_eq_some_iff.1 hread
    refine ⟨members, rfl, hreadOrdered, ?_⟩
    have hget := get?_rereadMembers? hmembers identifierMember
    rw [hkey, Option.map_some, reread?_key, eq_comm,
      Option.map_eq_some_iff] at hget
    obtain ⟨value, hvalue, heq⟩ := hget
    cases heq
    exact hvalue

theorem exists_keyed {room : Nat} {entries : List (Key × Value α)}
    {elements read : List Json}
    (hordered : ∀ entry ∈ entries, entry.2.Ordered)
    (hrender : entries.map Snapshot.renderEntry = elements.map .ok)
    (hread : elements.map (reread? room) = read.map some) :
    ∃ pairs : List (Key × List (String × Json)),
      pairs.map Prod.fst = entries.map Prod.fst ∧
      read = pairs.map (fun pair => .obj pair.2) ∧
      ∀ pair ∈ pairs, Keyed pair := by
  induction entries generalizing elements read with
  | nil =>
      rw [List.map_nil, eq_comm, List.map_eq_nil_iff] at hrender
      subst hrender
      rw [List.map_nil, eq_comm, List.map_eq_nil_iff] at hread
      subst hread
      exact ⟨[], rfl, rfl, fun _ h => absurd h List.not_mem_nil⟩
  | cons entry rest ih =>
      cases elements with
      | nil => simp at hrender
      | cons element elements =>
          cases read with
          | nil => simp at hread
          | cons value values =>
              rw [List.map_cons, List.map_cons, List.cons.injEq] at hrender hread
              obtain ⟨members, rfl, hkeyed⟩ := keyed_of_reread
                (hordered entry List.mem_cons_self) hrender.1 hread.1
              obtain ⟨pairs, hkeys, rfl, hpairs⟩ := ih
                (fun other hother =>
                  hordered other (List.mem_cons_of_mem entry hother))
                hrender.2 hread.2
              refine ⟨(entry.1, members) :: pairs, ?_, rfl, ?_⟩
              · rw [List.map_cons, List.map_cons, hkeys]
              · exact List.forall_mem_cons.2 ⟨hkeyed, hpairs⟩

/-- The document of an array is not blank. -/
theorem document_notBlank (elements : List Json) :
    (Snapshot.document (.arr elements)).all isAsciiBlank = false := by
  obtain ⟨rest, hrest⟩ : ∃ rest, (Json.arr elements).prettyChars 0 =
      '[' :: rest := by
    cases elements <;> exact ⟨_, rfl⟩
  rw [Snapshot.document, Utf8.encode, pretty, String.toList_ofList, hrest]
  rfl

theorem document_ne_nil (elements : List Json) :
    Snapshot.document (.arr elements) ≠ [] := by
  intro hnil
  have hblank := document_notBlank elements
  rw [hnil] at hblank
  cases hblank

theorem ne_nil_of_encodeEntries {entries : List (Key × Value α)} {bytes : Bytes}
    (h : Snapshot.encodeEntries entries = .ok bytes) : bytes ≠ [] := by
  obtain ⟨document, hdocument, rfl⟩ := Outcome.map_eq_ok_iff.1 h
  obtain ⟨elements, -, rfl⟩ := Outcome.map_eq_ok_iff.1 hdocument
  exact document_ne_nil elements

theorem entriesOf_document (registry : Registry α) (region : RegionId)
    (elements : List Json) :
    entriesOf registry region (Snapshot.document (.arr elements)) =
      match Snapshot.decode registry (Snapshot.document (.arr elements)) with
      | .error cause => .error (.conversion cause)
      | .ok instances => entriesFrom registry region 0 instances := by
  rw [entriesOf, document_notBlank]
  rfl

/-- The entries of a region can be restored: their document is read back and
each of its elements can be imported. -/
def Restorable (registry : Registry α) (entries : List (Key × Value α)) :
    Prop :=
  ∃ elements read, Snapshot.renderEntries entries = .ok (.arr elements) ∧
    Snapshot.rereadElements? elements = some read ∧
    ∀ members, Json.obj members ∈ read → Snapshot.Importable registry members

/-- The bytes of a region are the document of ordered elements, and what these
are read back as is keyed like the region. -/
theorem exists_document {entries : List (Key × Value α)} {bytes : Bytes}
    (hordered : ∀ entry ∈ entries, entry.2.Ordered)
    (hbytes : Snapshot.encodeEntries entries = .ok bytes) :
    ∃ elements, Snapshot.renderEntries entries = .ok (.arr elements) ∧
      bytes = Snapshot.document (.arr elements) ∧ OrderedItems elements ∧
      ∀ read, Snapshot.rereadElements? elements = some read →
        ∃ pairs : List (Key × List (String × Json)),
          pairs.map Prod.fst = entries.map Prod.fst ∧
          read = pairs.map (fun pair => .obj pair.2) ∧
          ∀ pair ∈ pairs, Keyed pair := by
  obtain ⟨document, hdocument, rfl⟩ := Outcome.map_eq_ok_iff.1 hbytes
  obtain ⟨elements, helements, rfl⟩ := Outcome.map_eq_ok_iff.1 hdocument
  have hrender := Outcome.mapM_eq_ok_iff.1 helements
  refine ⟨elements, hdocument, rfl, ?_, fun read hread =>
    exists_keyed hordered hrender (rereadItems?_eq_some_iff.1 hread)⟩
  rw [orderedItems_iff]
  intro element helement
  obtain ⟨entry, hentry, heq⟩ := Outcome.mem_of_mapM helements helement
  obtain ⟨members, rfl, hmembers, -⟩ :=
    Snapshot.exists_renderEntry (hordered entry hentry) heq
  exact hmembers

/-- The document of a region has entries exactly if they can be restored. -/
theorem entriesOf_isOk_iff (registry : Registry α)
    {entries : List (Key × Value α)} {bytes : Bytes}
    (hordered : ∀ entry ∈ entries, entry.2.Ordered)
    (hbytes : Snapshot.encodeEntries entries = .ok bytes) (region : RegionId) :
    (∃ found, entriesOf registry region bytes = .ok found) ↔
      Restorable registry entries := by
  obtain ⟨elements, hrender, rfl, helements, hkeyed⟩ :=
    exists_document hordered hbytes
  rw [entriesOf_document, Snapshot.decode_document registry helements]
  constructor
  · rintro ⟨found, hfound⟩
    cases hread : Snapshot.rereadElements? elements with
    | none =>
        rw [hread] at hfound
        cases hfound
    | some read =>
        obtain ⟨pairs, -, rfl, hpairs⟩ := hkeyed read hread
        rw [hread] at hfound
        refine ⟨elements, _, hrender, hread, fun members hmember => ?_⟩
        obtain ⟨pair, hpair, heq⟩ := List.mem_map.1 hmember
        cases heq
        have hall := elements_isOk_iff registry hpairs region 0
        split at hfound
        · cases hfound
        · rename_i instances hinstances
          exact hall.1 ⟨instances, found, hinstances, hfound⟩ pair hpair
  · rintro ⟨elements', read, hrender', hread, hall⟩
    rw [hrender] at hrender'
    cases hrender'
    obtain ⟨pairs, -, rfl, hpairs⟩ := hkeyed read hread
    obtain ⟨instances, found, hinstances, hfound⟩ :=
      (elements_isOk_iff registry hpairs region 0).2 (fun pair hpair =>
        hall pair.2 (List.mem_map.2 ⟨pair, hpair, rfl⟩))
    refine ⟨found, ?_⟩
    rw [hread]
    dsimp only
    rw [hinstances]
    exact hfound

/-- The entries of the document of a region have the keys of the region. -/
theorem keys_of_entriesOf {registry : Registry α}
    {entries found : List (Key × Value α)} {bytes : Bytes}
    (hordered : ∀ entry ∈ entries, entry.2.Ordered)
    (hbytes : Snapshot.encodeEntries entries = .ok bytes) {region : RegionId}
    (hfound : entriesOf registry region bytes = .ok found) :
    found.map Prod.fst = entries.map Prod.fst := by
  obtain ⟨elements, -, rfl, helements, hkeyed⟩ :=
    exists_document hordered hbytes
  rw [entriesOf_document, Snapshot.decode_document registry helements] at hfound
  cases hread : Snapshot.rereadElements? elements with
  | none =>
      rw [hread] at hfound
      cases hfound
  | some read =>
      obtain ⟨pairs, hkeys, rfl, hpairs⟩ := hkeyed read hread
      rw [hread] at hfound
      split at hfound
      · cases hfound
      · rename_i instances hinstances
        rw [keys_of_elements hpairs hinstances hfound, hkeys]

theorem entry_of_key {registry : Registry α} {p : Portable α} {key : Key}
    {object : TypedObject α} (hkey : p.key? = some key)
    (hcontains : registry.contains p.className = true)
    (hobject : Snapshot.toObject registry p = .ok object) (region : RegionId)
    (index : Nat) :
    entry registry region index p = .ok (key, .object object) := by
  simp [entry, hkey, hcontains, hobject]

theorem entriesFrom_of_map {registry : Registry α} {region : RegionId}
    {instances : List (Portable α)} {entries : List (Key × Value α)}
    (h : instances.map (fun p index => entry registry region index p) =
      entries.map (fun first _ => .ok first)) (index : Nat) :
    entriesFrom registry region index instances = .ok entries := by
  induction instances generalizing entries index with
  | nil =>
      rw [List.map_nil, eq_comm, List.map_eq_nil_iff] at h
      subst h
      rfl
  | cons p rest ih =>
      cases entries with
      | nil => simp at h
      | cons first others =>
          rw [List.map_cons, List.map_cons, List.cons.injEq] at h
          rw [entriesFrom, congrFun h.1 index, ih h.2 (index + 1)]
          rfl

/-- Typed objects that are read back have a document from which exactly these
entries are made again. -/
theorem exists_entriesOf (registry : Registry α)
    {entries : List (Key × Value α)}
    (hfaithful : ∀ entry ∈ entries, ∃ object,
      entry.2 = .object object ∧ object.Faithful registry)
    (hfits : Snapshot.FitsReader entries) (region : RegionId) :
    ∃ bytes, Snapshot.encodeEntries entries = .ok bytes ∧
      entriesOf registry region bytes = .ok entries := by
  have hfits' : Snapshot.FitsReader (entries.map id) := by
    rwa [List.map_id]
  obtain ⟨bytes, instances, hencode, hdecode, hfound⟩ :=
    Snapshot.exists_decode registry id hfits'
      (fun first (_ : Nat) => .ok first)
      (fun p index => entry registry region index p) (by
      rintro ⟨key, value⟩ hentry
      obtain ⟨object, rfl, hobject⟩ := hfaithful _ hentry
      obtain ⟨element, p, hrender, hread, hclass, hkey, hmade⟩ :=
        Snapshot.exists_instance hobject key
      obtain ⟨members, rfl, hmembers, -⟩ :=
        Snapshot.exists_renderEntry hobject.ordered hrender
      have hcontains : registry.contains p.className = true := by
        rw [hclass]
        exact hobject.contains
      exact ⟨_, p, hmembers, hrender, hread,
        funext (entry_of_key hkey hcontains hmade region)⟩)
  rw [List.map_id] at hencode
  refine ⟨bytes, hencode, ?_⟩
  obtain ⟨document, hdocument, rfl⟩ := Outcome.map_eq_ok_iff.1 hencode
  obtain ⟨elements, -, rfl⟩ := Outcome.map_eq_ok_iff.1 hdocument
  rw [entriesOf_document, hdecode]
  exact entriesFrom_of_map hfound 0

/-- Typed objects that are read back can be restored. -/
theorem restorable_of_faithful (registry : Registry α)
    {entries : List (Key × Value α)}
    (hfaithful : ∀ entry ∈ entries, ∃ object,
      entry.2 = .object object ∧ object.Faithful registry)
    (hfits : Snapshot.FitsReader entries) : Restorable registry entries := by
  obtain ⟨bytes, hencode, hentries⟩ :=
    exists_entriesOf registry hfaithful hfits (.root "")
  have hordered : ∀ entry ∈ entries, entry.2.Ordered := by
    rintro ⟨key, value⟩ hentry
    obtain ⟨object, rfl, hobject⟩ := hfaithful _ hentry
    exact hobject.ordered
  exact (entriesOf_isOk_iff registry hordered hencode _).1 ⟨_, hentries⟩

/-- The resource is what the export of a region writes to: the region's own, if
the writer takes it on. -/
structure Targets (x : Exchange α) (tree : FileTree) (region : RegionId)
    (resource : Resource) : Prop where
  resolved : x.exportTo.resolve tree region = .ok (some resource)
  accepted : x.writer.accepts tree resource = true

/-- The export of a region wrote `bytes` to its resource. -/
structure Wrote (x : Exchange α) (tree : FileTree) (region : Region α)
    (bytes : Bytes) : Prop where
  encoded : Snapshot.encodeEntries region.entries = .ok bytes
  written : ∃ resource,
    x.exportTo.resolve tree region.id = .ok (some resource) ∧
    x.writer.accepts tree resource = true ∧
    (x.writer.write tree resource bytes).1 = .ok ()

/-- The import of a region, which is empty, finds a resource that holds
`bytes`. -/
structure Finds (x : Exchange α) (tree : FileTree) (region : Region α)
    (bytes : Bytes) : Prop where
  empty : region.entries = []
  read : ∃ resource,
    x.importFrom.resolve tree region.id = .ok (some resource) ∧
    resource.read x.readSize tree = .ok bytes

variable {x : Exchange α} {tree : FileTree} {region : Region α} {bytes : Bytes}

variable {resource : Resource}

theorem exportNow_of_unresolved {error : ExchangeError}
    (h : x.exportTo.resolve tree region.id = .error error) :
    x.exportNow tree region = (.error error, tree) := by
  rw [exportNow, h]

/-- Without a target nothing is converted and nothing is written. -/
theorem exportNow_of_untargeted {found : Option Resource}
    (h : x.exportTo.resolve tree region.id = .ok found)
    (hnone : ∀ resource, ¬x.Targets tree region.id resource) :
    x.exportNow tree region = (.ok 0, tree) := by
  rw [exportNow, h]
  cases found with
  | none => rfl
  | some resource =>
      cases haccepts : x.writer.accepts tree resource with
      | true => exact absurd ⟨h, haccepts⟩ (hnone resource)
      | false =>
          dsimp only
          rw [haccepts]
          rfl

/-- An export to a target writes the document of all entries if they can be
converted. -/
theorem Targets.exportNow (h : x.Targets tree region.id resource) :
    x.exportNow tree region =
      match Snapshot.encodeEntries region.entries with
      | .error cause => (.error (.conversion cause), tree)
      | .ok bytes =>
          match x.writer.write tree resource bytes with
          | (.ok (), after) => (.ok region.size, after)
          | (.error cause, after) => (.error (.resource cause), after) := by
  rw [Exchange.exportNow, h.resolved]
  dsimp only
  rw [h.accepted]
  rfl

/-- The ways in which an export can go. -/
theorem exportNow_cases (x : Exchange α) (tree : FileTree)
    (region : Region α) :
    (∃ error, x.exportTo.resolve tree region.id = .error error) ∨
    (∃ found, x.exportTo.resolve tree region.id = .ok found ∧
      ∀ resource, ¬x.Targets tree region.id resource) ∨
    ∃ resource, x.Targets tree region.id resource := by
  by_cases htarget : ∃ resource, x.Targets tree region.id resource
  · exact .inr (.inr htarget)
  · cases hresolve : x.exportTo.resolve tree region.id with
    | error error => exact .inl ⟨error, rfl⟩
    | ok found =>
        exact .inr (.inl ⟨found, rfl, not_exists.1 htarget⟩)

theorem Targets.exists_written (h : x.Targets tree region.id resource)
    {count : Nat} (hcount : (x.exportNow tree region).1 = .ok count) :
    count = region.size ∧ ∃ bytes after,
      Snapshot.encodeEntries region.entries = .ok bytes ∧
      x.writer.write tree resource bytes = (.ok (), after) ∧
      (x.exportNow tree region).2 = after := by
  rw [h.exportNow] at hcount ⊢
  cases hencode : Snapshot.encodeEntries region.entries with
  | error cause =>
      rw [hencode] at hcount
      cases hcount
  | ok bytes =>
      rw [hencode] at hcount
      rcases hwrite : x.writer.write tree resource bytes with
        ⟨cause | done, after⟩
      · simp only [hwrite] at hcount
        cases hcount
      · simp only [hwrite] at hcount ⊢
        exact ⟨(Except.ok.inj hcount).symm, bytes, after, rfl, hwrite, rfl⟩

theorem Wrote.exportNow (h : x.Wrote tree region bytes) :
    (x.exportNow tree region).1 = .ok region.size := by
  obtain ⟨resource, hresolve, haccepts, hwrite⟩ := h.written
  have htarget : x.Targets tree region.id resource := ⟨hresolve, haccepts⟩
  rw [htarget.exportNow, h.encoded]
  rcases hresult : x.writer.write tree resource bytes with ⟨result, after⟩
  rw [hresult] at hwrite
  obtain rfl := hwrite
  simp only [hresult]

theorem Finds.importNow (h : x.Finds tree region bytes) :
    x.importNow tree region =
      match entriesOf x.registry region.id bytes with
      | .error error => (.error error, region)
      | .ok entries => (.ok entries.length, region.putAll entries) := by
  obtain ⟨resource, hresolve, hread⟩ := h.read
  have hempty : region.isEmpty = true := by
    rw [Region.isEmpty, h.empty]
    rfl
  rw [Exchange.importNow, hempty, hresolve]
  dsimp only
  rw [hread]
  rfl

/-- An import that finds the document of restorable entries restores all their
keys. -/
theorem Finds.exists_restored (h : x.Finds tree region bytes)
    {entries : List (Key × Value α)}
    (hordered : ∀ entry ∈ entries, entry.2.Ordered)
    (hencode : Snapshot.encodeEntries entries = .ok bytes)
    (hrestorable : Restorable x.registry entries) :
    ∃ restored, x.importNow tree region = (.ok entries.length, restored) ∧
      ∀ key, Entries.has key restored.entries = Entries.has key entries := by
  obtain ⟨found, hfound⟩ := (entriesOf_isOk_iff x.registry hordered hencode
    region.id).2 hrestorable
  have hkeys := keys_of_entriesOf hordered hencode hfound
  have hlength : found.length = entries.length := by
    simpa using congrArg List.length hkeys
  refine ⟨region.putAll found, ?_, fun key => ?_⟩
  · rw [h.importNow, hfound, ← hlength]
  · have hnone : Entries.has key ([] : List (Key × Value α)) = false := rfl
    rw [Region.putAll, h.empty, Entries.has_insertAll, hnone, Bool.false_or,
      Bool.eq_iff_iff, Entries.has_iff_mem, Entries.has_iff_mem, hkeys]

/-- An import that finds the document of other entries fails, and the region
stays empty. -/
theorem Finds.exists_error (h : x.Finds tree region bytes)
    {entries : List (Key × Value α)}
    (hordered : ∀ entry ∈ entries, entry.2.Ordered)
    (hencode : Snapshot.encodeEntries entries = .ok bytes)
    (hlost : ¬Restorable x.registry entries) :
    ∃ error, x.importNow tree region = (.error error, region) := by
  rw [h.importNow]
  cases hfound : entriesOf x.registry region.id bytes with
  | error error => exact ⟨error, rfl⟩
  | ok found =>
      exact absurd ((entriesOf_isOk_iff x.registry hordered hencode region.id).1
        ⟨found, hfound⟩) hlost

end Exchange
end RegionSnapshot
