/-
Paths of regions read back.  The name of a region is what stands behind the last
slash of its path, so a path leads to the region that it was made for, and the
path of the region that any text leads to leads there again.
-/
import Mathlib.Data.List.DropRight
import RegionSnapshot.Region.Path

namespace RegionSnapshot
namespace Text

/-! Dropping a run at the end. -/

theorem toList_dropTrailing (c : Char) (s : String) :
    (dropTrailing c s).toList = s.toList.rdropWhile (· = c) :=
  String.toList_ofList

theorem dropTrailing_append_replicate (c : Char) (s : String) (count : Nat) :
    dropTrailing c (s ++ .ofList (List.replicate count c)) =
      dropTrailing c s := by
  rw [← String.toList_inj, toList_dropTrailing, toList_dropTrailing,
    String.toList_append, String.toList_ofList]
  induction count with
  | zero => rw [List.replicate_zero, List.append_nil]
  | succ count ih =>
      rw [List.replicate_succ', ← List.append_assoc,
        List.rdropWhile_concat_pos _ _ _ (by simp), ih]

theorem dropTrailing_dropTrailing (c : Char) (s : String) :
    dropTrailing c (dropTrailing c s) = dropTrailing c s := by
  rw [← String.toList_inj, toList_dropTrailing, toList_dropTrailing,
    List.rdropWhile_idempotent]

/-- A text that ends otherwise is not shortened. -/
theorem dropTrailing_eq_self_iff {c : Char} {s : String} :
    dropTrailing c s = s ↔ s.toList.getLast? ≠ some c := by
  rw [← String.toList_inj, toList_dropTrailing, List.rdropWhile_eq_self_iff]
  cases hchars : s.toList using List.reverseRecOn <;> simp

end Text

namespace RegionId

variable {parent name : String}

/-- A root region is a subregion of nothing. -/
theorem root_eq_subregion (name : String) : root name = subregion "" name := by
  simp [root, subregion, Text.dropTrailing]

/-- Slashes at the end of the path of a parent do not count. -/
theorem subregion_dropTrailing (parent name : String) :
    subregion (Text.dropTrailing '/' parent) name = subregion parent name := by
  rw [subregion, subregion, Text.dropTrailing_dropTrailing]

theorem toList_fullPath_subregion (parent name : String) :
    (subregion parent name).fullPath.toList =
      (Text.dropTrailing '/' parent).toList ++ '/' :: name.toList := by
  simp [subregion]

/-- The name is what follows the last slash of the trimmed path. -/
theorem ofPath_of_cut {path : String}
    (h : Text.cutLast? '/' (Text.dropTrailing '/' path) = some (parent, name)) :
    ofPath path = subregion parent name := by
  simp only [ofPath, h]
  split
  · rename_i hempty
    rw [String.isEmpty_iff.1 hempty, root_eq_subregion]
  · rfl

theorem ofPath_of_no_cut {path : String}
    (h : Text.cutLast? '/' (Text.dropTrailing '/' path) = none) :
    ofPath path = subregion "" (Text.dropTrailing '/' path) := by
  simp only [ofPath, h]
  exact root_eq_subregion _

/-- The path of a region whose name has no slash leads to the region, whatever
slashes are behind it.  Without a name this is the path of the root alone. -/
theorem ofPath_append (hslash : '/' ∉ name.toList)
    (hname : name = "" → parent = "") (slashes : Nat) :
    ofPath ((subregion parent name).fullPath ++
      .ofList (List.replicate slashes '/')) = subregion parent name := by
  have htrimmed := Text.dropTrailing_append_replicate '/'
    (subregion parent name).fullPath slashes
  by_cases hempty : name = ""
  · have hnothing : Text.dropTrailing '/' (subregion "" "").fullPath = "" := by
      decide
    rw [hempty, hname hempty, hnothing] at htrimmed
    rw [hempty, hname hempty, ofPath_of_no_cut (by rw [htrimmed]; rfl), htrimmed]
  · have hlast : (subregion parent name).fullPath.toList.getLast? ≠ some '/' := by
      have hchars : name.toList ≠ [] := by
        simpa using hempty
      rw [toList_fullPath_subregion, List.getLast?_append_cons,
        List.getLast?_cons_of_ne_nil hchars]
      exact fun heq => hslash (List.mem_of_getLast? heq)
    rw [Text.dropTrailing_eq_self_iff.2 hlast] at htrimmed
    have hcut : Text.cutLast? '/' (subregion parent name).fullPath =
        some (Text.dropTrailing '/' parent, name) := by
      rw [Text.cutLast?, toList_fullPath_subregion,
        Text.cutLastChars?_append hslash]
      simp
    rw [ofPath_of_cut (htrimmed.symm ▸ hcut), subregion_dropTrailing]

/-- Every path leads to a region whose name has no slash, and only the path of
the root alone leads to one without name. -/
theorem exists_ofPath (path : String) :
    ∃ parent name, ofPath path = subregion parent name ∧
      '/' ∉ name.toList ∧ (name = "" → parent = "") := by
  cases hcut : Text.cutLast? '/' (Text.dropTrailing '/' path) with
  | none =>
      refine ⟨"", _, ofPath_of_no_cut hcut, ?_, fun _ => rfl⟩
      exact Text.cutLastChars?_eq_none (Option.map_eq_none_iff.1 hcut)
  | some parts =>
      obtain ⟨⟨before, after⟩, hchars, rfl⟩ := Option.map_eq_some_iff.1 hcut
      obtain ⟨htext, hafter⟩ := Text.cutLastChars?_eq_some hchars
      refine ⟨_, _, ofPath_of_cut hcut, by rwa [String.toList_ofList], ?_⟩
      -- A slash before an empty name would have been dropped.
      intro hempty
      have hlast := Text.dropTrailing_eq_self_iff.1
        (Text.dropTrailing_dropTrailing '/' path)
      rw [htext, String.ofList_eq_empty_iff.1 hempty] at hlast
      simp at hlast

/-- The path of a region with a name leads to the region, whatever slashes are
behind it, and what any path leads to has no slash in its name and is found
under its own path. -/
theorem ofPath_fullPath :
    (∀ (parent name : String) (slashes : Nat), name ≠ "" →
      '/' ∉ name.toList →
      ofPath ((subregion parent name).fullPath ++
        .ofList (List.replicate slashes '/')) = subregion parent name ∧
      ofPath ((root name).fullPath ++
        .ofList (List.replicate slashes '/')) = root name) ∧
    ∀ path, '/' ∉ (ofPath path).name.toList ∧
      ofPath (ofPath path).fullPath = ofPath path := by
  constructor
  · intro parent name slashes hname hslash
    have hparent : ∀ other : String, name = "" → other = "" :=
      fun other hempty => absurd hempty hname
    rw [root_eq_subregion]
    exact ⟨ofPath_append hslash (hparent parent) slashes,
      ofPath_append hslash (hparent "") slashes⟩
  · intro path
    obtain ⟨parent, name, hpath, hslash, hname⟩ := exists_ofPath path
    have hagain := ofPath_append hslash hname 0
    rw [List.replicate_zero, String.ofList_nil, String.append_empty] at hagain
    rw [hpath]
    exact ⟨hslash, hagain⟩

/-- Slashes behind the parent and behind the path do not count. -/
theorem ofPath_fullPath_orders :
    "Orders" ≠ "" ∧ '/' ∉ "Orders".toList ∧
      ofPath ((subregion "Sales//" "Orders").fullPath ++
        .ofList (List.replicate 2 '/')) = ⟨"Orders", "Sales/Orders"⟩ ∧
      ofPath (ofPath "Sales//Orders").fullPath = ⟨"Orders", "Sales/Orders"⟩ := by
  obtain ⟨hmade, hread⟩ := ofPath_fullPath
  have hregion : subregion "Sales//" "Orders" = ⟨"Orders", "Sales/Orders"⟩ := by
    decide +kernel
  have hpath : ofPath "Sales//Orders" = ⟨"Orders", "Sales/Orders"⟩ := by
    decide +kernel
  refine ⟨by decide, by decide, ?_, ?_⟩
  · rw [← hregion]
    exact (hmade "Sales//" "Orders" 2 (by decide) (by decide)).1
  · rw [(hread "Sales//Orders").2, hpath]

end RegionId
end RegionSnapshot
