/-
Blank characters and trimming.  A text is blank when every character of it
has the Unicode property White_Space; `trim` removes such characters from
both ends and leaves the inside alone.
-/
namespace RegionSnapshot
namespace Text

/-- The characters of the Unicode property White_Space. -/
def isBlankChar (c : Char) : Bool :=
  let n := c.toNat
  (9 ≤ n && n ≤ 13) || n == 0x20 || n == 0x85 || n == 0xA0 || n == 0x1680 ||
    (0x2000 ≤ n && n ≤ 0x200A) || n == 0x2028 || n == 0x2029 ||
    n == 0x202F || n == 0x205F || n == 0x3000

/-- The rest of a text after the blanks at its start. -/
def trimStart (cs : List Char) : List Char :=
  cs.dropWhile isBlankChar

/-- A text without the blanks at its end. -/
def trimEnd (cs : List Char) : List Char :=
  (trimStart cs.reverse).reverse

/-- A text without the blanks at either end. -/
def trimChars (cs : List Char) : List Char :=
  trimEnd (trimStart cs)

/-- A text without the blanks at either end. -/
def trim (s : String) : String :=
  .ofList (trimChars s.toList)

/-- A text that holds no character but blanks. -/
def isBlank (s : String) : Bool :=
  s.toList.all isBlankChar

/-- A run that does not begin at the start is not dropped. -/
theorem dropWhile_eq_self {p : Char → Bool} {cs : List Char}
    (h : cs.head?.any p = false) : cs.dropWhile p = cs := by
  cases cs with
  | nil => rfl
  | cons c rest => exact List.dropWhile_cons_of_neg (by simpa using h)

/-- No blank is at the end, so none is trimmed there. -/
theorem trimEnd_eq_self {cs : List Char}
    (h : cs.getLast?.any isBlankChar = false) : trimEnd cs = cs := by
  rw [← List.head?_reverse] at h
  rw [trimEnd, trimStart, dropWhile_eq_self h, List.reverse_reverse]

theorem trimStart_eq_nil_iff {cs : List Char} :
    trimStart cs = [] ↔ cs.all isBlankChar = true := by
  induction cs with
  | nil => simp [trimStart]
  | cons c rest ih =>
      rw [trimStart] at ih ⊢
      by_cases hc : isBlankChar c = true
      · rw [List.dropWhile_cons_of_pos hc, ih, List.all_cons, hc, Bool.true_and]
      · simp [List.dropWhile_cons_of_neg, hc]

/-- What is left after trimming the start begins with no blank. -/
theorem trimStart_all_blank_iff {cs : List Char} :
    (trimStart cs).all isBlankChar = true ↔ cs.all isBlankChar = true := by
  induction cs with
  | nil => rfl
  | cons c rest ih =>
      by_cases hc : isBlankChar c = true
      · simpa [trimStart, hc] using ih
      · simp [trimStart, hc]

theorem trimChars_eq_nil_iff {cs : List Char} :
    trimChars cs = [] ↔ cs.all isBlankChar = true := by
  rw [trimChars, trimEnd, List.reverse_eq_nil_iff, trimStart_eq_nil_iff,
    List.all_reverse, trimStart_all_blank_iff]

/-- Trimming leaves nothing exactly of a blank text. -/
theorem trim_eq_empty_iff {s : String} : trim s = "" ↔ isBlank s = true := by
  rw [isBlank, ← trimChars_eq_nil_iff, trim]
  constructor
  · intro h
    simpa using congrArg String.toList h
  · intro h
    simp [h]

end Text
end RegionSnapshot
