/-
Regions after edits.  A region is filled by puts, removals and clearings.
However it was filled, its entries stand in the order of their keys, each key
once and with the value of its last put; so regions with the same content have
the same entries, and the same document is made of them.
-/
import Mathlib.Data.List.Induction
import RegionSnapshot.Region.Basic
import RegionSnapshot.Proofs.Entries
import RegionSnapshot.Proofs.Key
import RegionSnapshot.Proofs.Snapshot.RoundTrip

namespace RegionSnapshot

variable {α : Type}

/-- A change of the entries of a region. -/
inductive Edit (α : Type)
  | put (key : Key) (value : Value α)
  | remove (key : Key)
  | clear

namespace Edit

/-- The edit is about the key. -/
def Touches (key : Key) : Edit α → Prop
  | .put other _ => other = key
  | .remove other => other = key
  | .clear => True

/-- The last edit about the key puts this value. -/
def LastPut (key : Key) (value : Value α) (edits : List (Edit α)) : Prop :=
  ∃ before after, edits = before ++ .put key value :: after ∧
    ∀ edit ∈ after, ¬ edit.Touches key

theorem not_lastPut_nil (key : Key) (value : Value α) :
    ¬ LastPut key value [] := by
  rintro ⟨before, after, heq, -⟩
  simp at heq

/-- The last edit puts the value, or it is not about the key. -/
theorem lastPut_concat_iff {key : Key} {value : Value α}
    {edits : List (Edit α)} {edit : Edit α} :
    LastPut key value (edits ++ [edit]) ↔
      edit = .put key value ∨ ¬ edit.Touches key ∧ LastPut key value edits := by
  constructor
  · rintro ⟨before, after, heq, hafter⟩
    rcases List.eq_nil_or_concat after with rfl | ⟨others, last, rfl⟩
    · have hlast : [edit] = [.put key value] := List.append_inj_right' heq rfl
      exact .inl (List.singleton_inj.1 hlast)
    · rw [List.concat_eq_append] at heq hafter
      rw [← List.cons_append, ← List.append_assoc] at heq
      obtain ⟨hedits, hlast⟩ := List.append_inj' heq rfl
      rw [List.singleton_inj] at hlast
      subst hlast
      refine .inr ⟨hafter edit (by simp), before, others, hedits, ?_⟩
      exact fun other hother => hafter other (by simp [hother])
  · rintro (rfl | ⟨hapart, before, after, rfl, hafter⟩)
    · exact ⟨edits, [], rfl, by simp⟩
    · refine ⟨before, after ++ [edit], by simp, ?_⟩
      intro other hother
      rcases List.mem_append.1 hother with hold | hnew
      · exact hafter other hold
      · rw [List.mem_singleton.1 hnew]
        exact hapart

end Edit

namespace Region

def edit (r : Region α) : Edit α → Region α
  | .put key value => r.put key value
  | .remove key => r.remove key
  | .clear => r.clear

/-- Edits a region, one edit after the other. -/
def editAll (r : Region α) (edits : List (Edit α)) : Region α :=
  edits.foldl edit r

theorem editAll_concat (r : Region α) (edits : List (Edit α)) (last : Edit α) :
    r.editAll (edits ++ [last]) = (r.editAll edits).edit last := by
  rw [editAll, List.foldl_append]
  rfl

theorem get?_edit_iff (r : Region α) (edit : Edit α) {key : Key}
    {value : Value α} :
    (r.edit edit).get? key = some value ↔
      edit = .put key value ∨ ¬ edit.Touches key ∧ r.get? key = some value := by
  cases edit with
  | put other new =>
      rw [Region.edit, get?_put]
      by_cases hkey : key = other
      · simp [hkey, Edit.Touches]
      · simp [hkey, Ne.symm hkey, Edit.Touches]
  | remove other =>
      rw [Region.edit, get?_remove]
      by_cases hkey : key = other
      · simp [hkey, Edit.Touches]
      · simp [hkey, Ne.symm hkey, Edit.Touches]
  | clear => simp [Region.edit, clear, get?, Entries.get?, Edit.Touches]

/-- Every edit keeps the order of the entries. -/
theorem sorted_edit {r : Region α} (h : Entries.Sorted r.entries)
    (edit : Edit α) : Entries.Sorted (r.edit edit).entries := by
  cases edit with
  | put key value => exact h.insert key value
  | remove key => exact h.erase key
  | clear => exact Entries.sorted_nil

/-- The entries of a region are in order, whatever edits have been made. -/
theorem sorted_editAll {r : Region α} (h : Entries.Sorted r.entries)
    (edits : List (Edit α)) : Entries.Sorted (r.editAll edits).entries := by
  induction edits generalizing r with
  | nil => exact h
  | cons edit rest ih => exact ih (sorted_edit h edit)

/-- A key has the value of its last put. -/
theorem get?_editAll_iff (id : RegionId) (edits : List (Edit α)) {key : Key}
    {value : Value α} :
    ((empty id).editAll edits).get? key = some value ↔
      Edit.LastPut key value edits := by
  induction edits using List.reverseRecOn with
  | nil =>
      constructor
      · intro h
        cases h
      · intro h
        exact absurd h (Edit.not_lastPut_nil key value)
  | append_singleton edits last ih =>
      rw [editAll_concat, get?_edit_iff, Edit.lastPut_concat_iff, ih]

theorem mem_entries_iff {r : Region α} (h : Entries.Sorted r.entries)
    {key : Key} {value : Value α} :
    (key, value) ∈ r.entries ↔ r.get? key = some value :=
  ⟨h.get?_of_mem, Entries.mem_of_get?⟩

end Region

namespace Snapshot

/-- Entries with what is written of their values. -/
def renderings (entries : List (Key × Value α)) :
    List (Key × Except ConversionError Json) :=
  entries.map (fun entry => (entry.1, renderValue entry.2))

/-- A document is made of the keys and of what is written of the values. -/
theorem encodeEntries_eq (entries : List (Key × Value α)) :
    encodeEntries entries =
      (((renderings entries).mapM
        (fun entry : Key × Except ConversionError Json =>
          entry.2.map (withKey entry.1))).map .arr).map document := by
  rw [renderings, List.mapM_map]
  rfl

/-- Ordered entries of which the same is written make one document. -/
theorem encodeEntries_congr {first second : List (Key × Value α)}
    (hfirst : Entries.Sorted first) (hsecond : Entries.Sorted second)
    (h : ∀ key, (Entries.get? key first).map renderValue =
      (Entries.get? key second).map renderValue) :
    encodeEntries first = encodeEntries second := by
  have hsorted : ∀ {entries : List (Key × Value α)}, Entries.Sorted entries →
      Entries.Sorted (renderings entries) := by
    intro entries hentries
    exact hentries.of_keys_eq (by simp [renderings])
  have hsame : renderings first = renderings second := by
    apply (hsorted hfirst).ext (hsorted hsecond)
    intro key
    have hrender := Entries.get?_mapValues
      (fun _ : Key => renderValue (α := α)) key
    rw [renderings, renderings, hrender, hrender, h]
  rw [encodeEntries_eq, encodeEntries_eq, hsame]

end Snapshot

namespace Region

/-- The document of a region depends on its content alone.  Its entries stand in
the order of their keys, integers by value before strings by bytes; no key is
there twice, and each has the value of its last put.  Whatever edits have been
made of two regions, with the same values under all keys they have the same
entries; and the same bytes are made of them even if the values differ, as long
as the same is written of them. -/
theorem encodeEntries_editAll (id : RegionId) (edits : List (Edit α)) :
    let region := (empty id).editAll edits
    region.entries.Pairwise
        (fun first second => first.1.Precedes second.1) ∧
      (region.entries.map Prod.fst).Nodup ∧
      (∀ key value, (key, value) ∈ region.entries ↔
        Edit.LastPut key value edits) ∧
      ∀ (otherId : RegionId) (others : List (Edit α)),
        let other := (empty otherId).editAll others
        ((∀ key, region.get? key = other.get? key) →
          region.entries = other.entries) ∧
        ((∀ key, (region.get? key).map Snapshot.renderValue =
            (other.get? key).map Snapshot.renderValue) →
          Snapshot.encodeEntries region.entries =
            Snapshot.encodeEntries other.entries) := by
  intro region
  have hsorted : Entries.Sorted region.entries :=
    sorted_editAll Entries.sorted_nil edits
  refine ⟨?_, ?_, ?_, ?_⟩
  · exact hsorted.imp Key.precedes_iff.2
  · rw [List.Nodup, List.pairwise_map]
    apply hsorted.imp
    intro first second hlt heq
    rw [heq] at hlt
    exact KeyOrder.irrefl _ hlt
  · intro key value
    rw [mem_entries_iff hsorted, get?_editAll_iff]
  · intro otherId others other
    have hother : Entries.Sorted other.entries :=
      sorted_editAll Entries.sorted_nil others
    exact ⟨hsorted.ext hother, Snapshot.encodeEntries_congr hsorted hother⟩

/-- An instance of which the same is written as of a typed object. -/
def treeInstance : Portable Datum :=
  .mk "app::Tree" none [("id", .text "own")] none

/-- Some keys are put more than once, and one is removed. -/
def treeEdits : List (Edit Datum) := [
  .put (.str "é") (.portable treeInstance),
  .put (.int 10) (.object (Snapshot.treeObject .null)),
  .put (.str "Z") (.object (Snapshot.treeObject .null)),
  .put (.int 2) (.object (Snapshot.treeObject .null)),
  .remove (.str "Z"),
  .put (.int 10) (.object (Snapshot.treeObject (.obj [("id", .str "own")])))]

/-- Another way to the same content, with a clearing. -/
def otherTreeEdits : List (Edit Datum) := [
  .put (.str "A") (.portable treeInstance),
  .clear,
  .put (.int 10) (.portable treeInstance),
  .put (.int 2) (.object (Snapshot.treeObject .null)),
  .put (.str "é") (.object (Snapshot.treeObject (.obj [("id", .str "own")])))]

theorem encodeEntries_editAll_trees :
    let region := (empty (.root "Trees")).editAll treeEdits
    let again := (empty (.root "Trees")).editAll (treeEdits ++ treeEdits)
    let other := (empty (.root "Others")).editAll otherTreeEdits
    (∀ key, region.get? key = again.get? key) ∧
      region.entries = again.entries ∧
      (∀ key, (region.get? key).map Snapshot.renderValue =
        (other.get? key).map Snapshot.renderValue) ∧
      Snapshot.encodeEntries region.entries =
        Snapshot.encodeEntries other.entries := by
  intro region again other
  have hregion : region.entries = [
      (.int 2, .object (Snapshot.treeObject .null)),
      (.int 10, .object (Snapshot.treeObject (.obj [("id", .str "own")]))),
      (.str "é", .portable treeInstance)] := by rfl
  have hagain : again.entries = region.entries := by rfl
  have hother : other.entries = [
      (.int 2, .object (Snapshot.treeObject .null)),
      (.int 10, .portable treeInstance),
      (.str "é", .object
        (Snapshot.treeObject (.obj [("id", .str "own")])))] := by rfl
  have hcontent : ∀ key, region.get? key = again.get? key := by
    intro key
    rw [get?, get?, hagain]
  have hsame : ∀ key, (region.get? key).map Snapshot.renderValue =
      (other.get? key).map Snapshot.renderValue := by
    intro key
    rw [get?, get?, hregion, hother]
    simp only [Entries.get?]
    repeat' split
    all_goals rfl
  have hedits := (encodeEntries_editAll (.root "Trees") treeEdits).2.2.2
  exact ⟨hcontent, (hedits _ _).1 hcontent, hsame, (hedits _ _).2 hsame⟩

end Region
end RegionSnapshot
