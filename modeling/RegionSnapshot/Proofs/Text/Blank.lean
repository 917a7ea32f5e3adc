/-
Blank texts and letter case.  No run of the case map begins, passes or ends at a
blank character, so a character is blank exactly if its lower case is, and
lowering a text neither makes it blank nor takes its blanks away.
-/
import RegionSnapshot.Text.Blank
import RegionSnapshot.Text.Case

namespace RegionSnapshot
namespace Text

namespace CaseTable

/-- Neither the code points of a run nor those that they are sent to lie in one
of the ranges. -/
def avoids (ranges : List (Nat × Nat)) (run : Run) : Bool :=
  ranges.all (fun (low, high) =>
    (run.2.1 < low || high < run.1) &&
      ((run.2.1 + run.2.2.2).toNat < low ||
        high < (run.1 + run.2.2.2).toNat))

theorem inRanges_eq_false_iff {ranges : List (Nat × Nat)} {n : Nat} :
    inRanges ranges n = false ↔
      ∀ low high, (low, high) ∈ ranges → n < low ∨ high < n := by
  simp only [inRanges, List.any_eq_false, Prod.forall, Bool.and_eq_true,
    decide_eq_true_eq, Decidable.not_and_iff_or_not, Nat.not_le]

/-- A map whose runs avoid some ranges takes nothing into them and nothing out
of them. -/
theorem inRanges_shifted {ranges : List (Nat × Nat)} {runs : List Run}
    (h : runs.all (avoids ranges) = true) (n : Nat) :
    inRanges ranges (shifted runs n) = inRanges ranges n := by
  rw [shifted]
  split
  · rename_i first last step shift hfind
    have hrun := List.all_eq_true.1 h _ (List.mem_of_find?_eq_some hfind)
    have hwithin := List.find?_some hfind
    simp only [Bool.and_eq_true, decide_eq_true_eq] at hwithin
    obtain ⟨⟨hfirst, hlast⟩, -⟩ := hwithin
    have hapart : ∀ low high, (low, high) ∈ ranges →
        (last < low ∨ high < first) ∧
          ((last + shift).toNat < low ∨ high < (first + shift).toNat) := by
      intro low high hmem
      simpa using List.all_eq_true.1 hrun _ hmem
    have hfrom : inRanges ranges n = false := by
      rw [inRanges_eq_false_iff]
      intro low high hmem
      have := (hapart low high hmem).1
      omega
    have hto : inRanges ranges (n + shift).toNat = false := by
      rw [inRanges_eq_false_iff]
      intro low high hmem
      have := (hapart low high hmem).2
      omega
    rw [hfrom, hto]
  · rfl

end CaseTable

/-- The blank characters as ranges of code points. -/
def blankRanges : List (Nat × Nat) :=
  [(9, 13), (0x20, 0x20), (0x85, 0x85), (0xA0, 0xA0), (0x1680, 0x1680),
    (0x2000, 0x200A), (0x2028, 0x2029), (0x202F, 0x202F), (0x205F, 0x205F),
    (0x3000, 0x3000)]

theorem isBlankChar_eq (c : Char) :
    isBlankChar c = CaseTable.inRanges blankRanges c.toNat := by
  rw [Bool.eq_iff_iff]
  simp [isBlankChar, CaseTable.inRanges, blankRanges]
  omega

/-- A code point that is no character is not blank. -/
theorem isBlankChar_ofNat (n : Nat) :
    isBlankChar (.ofNat n) = CaseTable.inRanges blankRanges n := by
  rw [isBlankChar_eq]
  by_cases hvalid : n.isValidChar
  · rw [Char.ofNat, dif_pos hvalid]
    rfl
  · have hnone : CaseTable.inRanges blankRanges n = false := by
      rw [CaseTable.inRanges_eq_false_iff]
      have hhigh : ∀ range ∈ blankRanges, range.2 < 0xd800 := by decide
      intro low high hmem
      have hlow : ¬n < 0xd800 := fun hlt => hvalid (.inl hlt)
      have := hhigh _ hmem
      omega
    rw [hnone, Char.ofNat, dif_neg hvalid]
    decide

theorem isBlankChar_toLower {c : Char} (h : c.toNat < 0x80) :
    isBlankChar c.toLower = isBlankChar c := by
  have hascii : ∀ n < 0x80,
      isBlankChar (Char.ofNat n).toLower = isBlankChar (.ofNat n) := by
    decide
  have hc := hascii c.toNat h
  rwa [Char.ofNat_toNat] at hc

theorem all_isBlankChar_lowerAt (before : List Char) (c : Char)
    (after : List Char) :
    (lowerAt before c after).all isBlankChar = isBlankChar c := by
  have hruns : CaseTable.lowerRuns.all (CaseTable.avoids blankRanges) = true := by
    decide +kernel
  rw [lowerAt]
  split
  · rename_i hascii
    rw [List.all_cons, List.all_nil, Bool.and_true, isBlankChar_toLower hascii]
  · split
    · rename_i hsigma
      rw [hsigma]
      split <;> decide
    · split
      · rename_i hdotted
        have hc : isBlankChar c = false := by
          rw [isBlankChar_eq, hdotted]
          decide
        rw [hc]
        decide
      · rw [List.all_cons, List.all_nil, Bool.and_true, isBlankChar_ofNat,
          CaseTable.inRanges_shifted hruns, isBlankChar_eq]

theorem all_isBlankChar_lowerAfter (before cs : List Char) :
    (lowerAfter before cs).all isBlankChar = cs.all isBlankChar := by
  induction cs generalizing before with
  | nil => rfl
  | cons c rest ih =>
      rw [lowerAfter, List.all_append, all_isBlankChar_lowerAt, ih, List.all_cons]

/-- A text is blank exactly if its lower case is. -/
theorem isBlank_toLower (s : String) : isBlank (toLower s) = isBlank s := by
  rw [isBlank, isBlank, toLower, String.toList_ofList,
    all_isBlankChar_lowerAfter]

theorem isBlank_append (s t : String) :
    isBlank (s ++ t) = (isBlank s && isBlank t) := by
  rw [isBlank, String.toList_append, List.all_append]
  rfl

end Text
end RegionSnapshot
