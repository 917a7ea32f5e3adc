/-
Values by what stands in them.  An order, a depth or a number fit to be read
back is had by a value if its items and members have it, so that proofs go by
induction over a value and all that is in it.
-/
import RegionSnapshot.Proofs.Entries
import RegionSnapshot.Proofs.Json.ReadBack

namespace RegionSnapshot
namespace Json

/-- Induction over a value and the values in it. -/
@[elab_as_elim]
theorem induct {motive : Json → Prop} (null : motive .null)
    (bool : ∀ value, motive (.bool value)) (num : ∀ n, motive (.num n))
    (str : ∀ s, motive (.str s))
    (arr : ∀ items, (∀ item ∈ items, motive item) → motive (.arr items))
    (obj : ∀ members, (∀ name value, (name, value) ∈ members → motive value) →
      motive (.obj members)) (json : Json) : motive json := by
  match json with
  | .null => exact null
  | .bool value => exact bool value
  | .num n => exact num n
  | .str s => exact str s
  | .arr items =>
      apply arr
      intro item hitem
      exact induct null bool num str arr obj item
  | .obj members =>
      apply obj
      intro name value hmember
      have hsize := List.sizeOf_lt_of_mem hmember
      exact induct null bool num str arr obj value
termination_by json
decreasing_by
  · have hsize := List.sizeOf_lt_of_mem hitem
    simp only [Json.arr.sizeOf_spec]
    omega
  · simp only [Prod.mk.sizeOf_spec, Json.obj.sizeOf_spec] at hsize ⊢
    omega

theorem orderedItems_iff {items : List Json} :
    OrderedItems items ↔ ∀ item ∈ items, item.Ordered := by
  induction items with
  | nil => simp [OrderedItems]
  | cons item rest ih => simp [OrderedItems, ih]

theorem orderedItems_singleton {json : Json} (h : json.Ordered) :
    OrderedItems [json] :=
  ⟨h, trivial⟩

theorem orderedMembers_iff {members : List (String × Json)} :
    OrderedMembers members ↔
      ∀ name value, (name, value) ∈ members → value.Ordered := by
  induction members with
  | nil => simp [OrderedMembers]
  | cons member rest ih =>
      obtain ⟨name, value⟩ := member
      rw [OrderedMembers, ih]
      constructor
      · rintro ⟨hvalue, hrest⟩ other json hmember
        rcases List.mem_cons.1 hmember with heq | hold
        · cases heq
          exact hvalue
        · exact hrest other json hold
      · intro h
        exact ⟨h name value List.mem_cons_self,
          fun other json hold => h other json (List.mem_cons_of_mem _ hold)⟩

theorem Ordered.of_get? {members : List (String × Json)} {name : String}
    {value : Json} (h : OrderedMembers members)
    (hget : Entries.get? name members = some value) : value.Ordered :=
  orderedMembers_iff.1 h name value (Entries.mem_of_get? hget)

theorem rereadItems?_eq_some_iff {room : Nat} {items read : List Json} :
    rereadItems? room items = some read ↔
      items.map (reread? room) = read.map some := by
  induction items generalizing read with
  | nil => cases read <;> simp [rereadItems?]
  | cons item rest ih =>
      cases read with
      | nil => simp [rereadItems?, Option.bind_eq_some_iff]
      | cons first others =>
          rw [List.map_cons, List.map_cons, List.cons.injEq, ← ih,
            rereadItems?]
          simp [Option.bind_eq_some_iff]

theorem rereadMembers?_eq_some_iff {room : Nat}
    {members read : List (String × Json)} :
    rereadMembers? room members = some read ↔
      members.map (fun member => (member.1, reread? room member.2)) =
        read.map (fun member => (member.1, some member.2)) := by
  induction members generalizing read with
  | nil => cases read <;> simp [rereadMembers?]
  | cons member rest ih =>
      obtain ⟨name, value⟩ := member
      cases read with
      | nil => simp [rereadMembers?, Option.bind_eq_some_iff]
      | cons first others =>
          obtain ⟨other, json⟩ := first
          rw [List.map_cons, List.map_cons, List.cons.injEq, ← ih,
            rereadMembers?]
          simp only [bind, Option.bind_eq_some_iff, pure, Option.some.injEq,
            List.cons.injEq, Prod.mk.injEq]
          constructor
          · rintro ⟨first, hfirst, more, hmore, ⟨hname, rfl⟩, rfl⟩
            exact ⟨⟨hname, hfirst⟩, hmore⟩
          · rintro ⟨⟨hname, hfirst⟩, hmore⟩
            exact ⟨json, hfirst, others, hmore, ⟨hname, rfl⟩, rfl⟩

/-- Members that are read back keep their names and are read back each. -/
theorem get?_rereadMembers? {room : Nat} {members read : List (String × Json)}
    (h : rereadMembers? room members = some read) (name : String) :
    (Entries.get? name members).map (reread? room) =
      (Entries.get? name read).map some := by
  rw [rereadMembers?_eq_some_iff] at h
  rw [← Entries.get?_mapValues (fun _ value => reread? room value) name members,
    ← Entries.get?_mapValues (fun _ value => some value) name read, h]

theorem sorted_rereadMembers? {room : Nat}
    {members read : List (String × Json)}
    (h : rereadMembers? room members = some read)
    (hsorted : Entries.Sorted members) : Entries.Sorted read := by
  rw [rereadMembers?_eq_some_iff] at h
  refine hsorted.of_keys_eq ?_
  have hnames := congrArg (List.map Prod.fst) h
  rw [List.map_map, List.map_map] at hnames
  exact hnames

/-- What an ordered value is read back as is ordered. -/
theorem Ordered.reread? {json read : Json} {room : Nat} (h : json.Ordered)
    (hread : Json.reread? room json = some read) : read.Ordered := by
  induction json using Json.induct generalizing room read with
  | null | bool | str =>
      cases hread
      trivial
  | num n =>
      rw [Json.reread?, Option.map_eq_some_iff] at hread
      obtain ⟨m, -, rfl⟩ := hread
      trivial
  | arr items ih =>
      rw [Ordered, orderedItems_iff] at h
      rw [Json.reread?] at hread
      split at hread
      · cases hread
      · obtain ⟨values, hvalues, rfl⟩ := Option.map_eq_some_iff.1 hread
        rw [rereadItems?_eq_some_iff] at hvalues
        rw [Ordered, orderedItems_iff]
        intro value hvalue
        have hmem : some value ∈ values.map some :=
          List.mem_map.2 ⟨value, hvalue, rfl⟩
        rw [← hvalues] at hmem
        obtain ⟨item, hitem, heq⟩ := List.mem_map.1 hmem
        exact ih item hitem (h item hitem) heq
  | obj members ih =>
      rw [Ordered, orderedMembers_iff] at h
      rw [Json.reread?] at hread
      split at hread
      · cases hread
      · obtain ⟨values, hvalues, rfl⟩ := Option.map_eq_some_iff.1 hread
        have hsorted := sorted_rereadMembers? hvalues h.1
        refine ⟨hsorted, orderedMembers_iff.2 (fun name value hvalue => ?_)⟩
        have hget := get?_rereadMembers? hvalues name
        rw [hsorted.get?_of_mem hvalue, Option.map_some,
          Option.map_eq_some_iff] at hget
        obtain ⟨old, hold, heq⟩ := hget
        have hmember := Entries.mem_of_get? hold
        exact ih name old hmember (h.2 name old hmember) heq

theorem depthItems_le_iff {items : List Json} {room : Nat} :
    depthItems items ≤ room ↔ ∀ item ∈ items, item.depth ≤ room := by
  induction items with
  | nil => simp [depthItems]
  | cons item rest ih =>
      rw [depthItems, Nat.max_le, ih, List.forall_mem_cons]

theorem depthMembers_le_iff {members : List (String × Json)} {room : Nat} :
    depthMembers members ≤ room ↔
      ∀ name value, (name, value) ∈ members → value.depth ≤ room := by
  induction members with
  | nil => simp [depthMembers]
  | cons member rest ih =>
      obtain ⟨name, value⟩ := member
      rw [depthMembers, Nat.max_le, ih]
      constructor
      · rintro ⟨hvalue, hrest⟩ other json hmember
        rcases List.mem_cons.1 hmember with heq | hold
        · cases heq
          exact hvalue
        · exact hrest other json hold
      · intro h
        exact ⟨h name value List.mem_cons_self,
          fun other json hold => h other json (List.mem_cons_of_mem _ hold)⟩

/-- A value that is read back fits the room. -/
theorem depth_le_of_reread? {json read : Json} {room : Nat}
    (hread : Json.reread? room json = some read) : json.depth ≤ room := by
  induction json using Json.induct generalizing room read with
  | null | bool | num | str => exact Nat.zero_le room
  | arr items ih =>
      rw [Json.reread?] at hread
      split at hread
      · cases hread
      · rename_i hroom
        obtain ⟨values, hvalues, -⟩ := Option.map_eq_some_iff.1 hread
        rw [rereadItems?_eq_some_iff] at hvalues
        have hitems : depthItems items ≤ room - 1 := by
          rw [depthItems_le_iff]
          intro item hitem
          obtain ⟨value, -, heq⟩ := List.mem_map.1
            (hvalues ▸ List.mem_map.2 ⟨item, hitem, rfl⟩)
          exact ih item hitem heq.symm
        rw [depth]
        omega
  | obj members ih =>
      rw [Json.reread?] at hread
      split at hread
      · cases hread
      · rename_i hroom
        obtain ⟨values, hvalues, -⟩ := Option.map_eq_some_iff.1 hread
        rw [rereadMembers?_eq_some_iff] at hvalues
        have hmembers : depthMembers members ≤ room - 1 := by
          rw [depthMembers_le_iff]
          intro name value hmember
          obtain ⟨other, -, heq⟩ := List.mem_map.1
            (hvalues ▸ List.mem_map.2 ⟨(name, value), hmember, rfl⟩)
          exact ih name value hmember (congrArg Prod.snd heq).symm
        rw [depth]
        omega

/-- A member more keeps an object ordered. -/
theorem OrderedMembers.insert {members : List (String × Json)} {value : Json}
    (h : OrderedMembers members) (hvalue : value.Ordered) (name : String) :
    OrderedMembers (Entries.insert name value members) := by
  rw [orderedMembers_iff] at h ⊢
  intro other json hmember
  rcases Entries.mem_insert hmember with heq | hold
  · cases heq
    exact hvalue
  · exact h other json hold

theorem OrderedMembers.insertAll {members more : List (String × Json)}
    (h : OrderedMembers members) (hmore : OrderedMembers more) :
    OrderedMembers (Entries.insertAll members more) := by
  induction more generalizing members with
  | nil => exact h
  | cons first rest ih =>
      obtain ⟨name, value⟩ := first
      exact ih (h.insert hmore.1 name) hmore.2

end Json
end RegionSnapshot
