/-
Cutting a text at a separator.  `fields` cuts at every occurrence, `cut?` at
the first and `cutLast?` at the last one; the separators themselves are
dropped.  Main statement: joining the fields with the separator gives the text
back.
-/
namespace RegionSnapshot
namespace Text

/-- The pieces of a text between the occurrences of `sep`, empty ones too. -/
def splitChars (sep : Char) : List Char → List (List Char)
  | [] => [[]]
  | c :: rest =>
      match splitChars sep rest with
      | [] => [[c]]
      | piece :: pieces =>
          if c = sep then [] :: piece :: pieces
          else (c :: piece) :: pieces

/-- The part before the first `sep` and the part after it. -/
def cutChars? (sep : Char) : List Char → Option (List Char × List Char)
  | [] => none
  | c :: rest =>
      if c = sep then some ([], rest)
      else (cutChars? sep rest).map (fun (before, after) => (c :: before, after))

/-- The part before the last `sep` and the part after it. -/
def cutLastChars? (sep : Char) (cs : List Char) :
    Option (List Char × List Char) :=
  (cutChars? sep cs.reverse).map
    (fun (after, before) => (before.reverse, after.reverse))

/-- The pieces of `s` between the occurrences of `sep`, empty ones too. -/
def fields (sep : Char) (s : String) : List String :=
  (splitChars sep s.toList).map String.ofList

/-- The part of `s` before the first `sep` and the part after it. -/
def cut? (sep : Char) (s : String) : Option (String × String) :=
  (cutChars? sep s.toList).map
    (fun (before, after) => (.ofList before, .ofList after))

/-- The part of `s` before the last `sep` and the part after it. -/
def cutLast? (sep : Char) (s : String) : Option (String × String) :=
  (cutLastChars? sep s.toList).map
    (fun (before, after) => (.ofList before, .ofList after))

/-- `s` without the run of `c` at its start. -/
def dropLeading (c : Char) (s : String) : String :=
  .ofList (s.toList.dropWhile (· = c))

/-- `s` without the run of `c` at its end. -/
def dropTrailing (c : Char) (s : String) : String :=
  .ofList (s.toList.reverse.dropWhile (· = c)).reverse

/-- What follows `lead` in `s`, when `s` starts with it. -/
def after? (lead s : String) : Option String :=
  (lead.toList.isPrefixOf? s.toList).map String.ofList

/-- `s` starts with `lead`. -/
def startsWith (lead s : String) : Bool :=
  lead.toList.isPrefixOf s.toList

/-- `s` ends with the character `c`. -/
def endsWith (c : Char) (s : String) : Bool :=
  s.toList.getLast? == some c

/-- The characters `part` occur side by side in a text. -/
def occursIn (part : List Char) : List Char → Bool
  | [] => part.isEmpty
  | c :: rest => part.isPrefixOf (c :: rest) || occursIn part rest

/-- `part` occurs somewhere in `s`. -/
def contains (part s : String) : Bool :=
  occursIn part.toList s.toList

theorem splitChars_ne_nil (sep : Char) (cs : List Char) :
    splitChars sep cs ≠ [] := by
  cases cs with
  | nil => simp [splitChars]
  | cons c rest =>
      simp only [splitChars]
      split
      · simp
      · split <;> simp

/-- A text without separator is one piece. -/
theorem splitChars_of_notMem {sep : Char} {cs : List Char} (h : sep ∉ cs) :
    splitChars sep cs = [cs] := by
  induction cs with
  | nil => rfl
  | cons c rest ih =>
      rw [List.mem_cons, not_or] at h
      rw [splitChars, ih h.2]
      exact if_neg (Ne.symm h.1)

/-- The pieces before a separator and those after it are cut apart. -/
theorem splitChars_append (sep : Char) (before after : List Char) :
    splitChars sep (before ++ sep :: after) =
      splitChars sep before ++ splitChars sep after := by
  induction before with
  | nil =>
      rw [List.nil_append, splitChars, splitChars]
      cases hafter : splitChars sep after with
      | nil => exact absurd hafter (splitChars_ne_nil sep after)
      | cons piece pieces => exact if_pos rfl
  | cons c rest ih =>
      rw [List.cons_append, splitChars, ih, splitChars]
      cases hrest : splitChars sep rest with
      | nil => exact absurd hrest (splitChars_ne_nil sep rest)
      | cons piece pieces =>
          dsimp only [List.cons_append]
          split <;> rfl

/-- No piece holds the separator. -/
theorem not_mem_of_mem_splitChars {sep : Char} {cs piece : List Char}
    (h : piece ∈ splitChars sep cs) : sep ∉ piece := by
  induction cs generalizing piece with
  | nil => simp_all [splitChars]
  | cons c rest ih =>
      simp only [splitChars] at h
      split at h
      · rename_i hnil
        exact absurd hnil (splitChars_ne_nil sep rest)
      · rename_i first pieces hpieces
        by_cases hc : c = sep
        · simp only [hc, ↓reduceIte, List.mem_cons] at h
          rcases h with rfl | h
          · simp
          · exact ih (by simpa [hpieces] using h)
        · simp only [hc, ↓reduceIte, List.mem_cons] at h
          rcases h with rfl | h
          · have hfirst : sep ∉ first := ih (by simp [hpieces])
            simp [Ne.symm hc, hfirst]
          · exact ih (by simp [hpieces, h])

/-- The pieces, each behind a separator, are the text behind one. -/
theorem flatMap_splitChars (sep : Char) (cs : List Char) :
    (splitChars sep cs).flatMap (sep :: ·) = sep :: cs := by
  induction cs with
  | nil => rfl
  | cons c rest ih =>
      rw [splitChars]
      split
      · rename_i hnil
        exact absurd hnil (splitChars_ne_nil sep rest)
      · rename_i piece pieces hpieces
        rw [hpieces, List.flatMap_cons, List.cons_append,
          List.cons.injEq] at ih
        split
        · rename_i hc
          simp [hc, ih.2]
        · simp [ih.2]

/-- A text is a piece just if it holds no separator and stands between two of
them where the whole text is put between two. -/
theorem mem_splitChars_iff {sep : Char} {cs piece : List Char} :
    piece ∈ splitChars sep cs ↔
      sep ∉ piece ∧ sep :: piece ++ [sep] <:+: sep :: cs ++ [sep] := by
  constructor
  · intro h
    refine ⟨not_mem_of_mem_splitChars h, ?_⟩
    obtain ⟨before, after, hpieces⟩ := List.append_of_mem h
    -- what is behind the piece begins with a separator in any case
    obtain ⟨tail, htail⟩ :
        ∃ tail, after.flatMap (sep :: ·) ++ [sep] = sep :: tail := by
      cases after <;> simp
    refine ⟨before.flatMap (sep :: ·), tail, ?_⟩
    rw [← flatMap_splitChars sep cs, hpieces, List.flatMap_append,
      List.flatMap_cons]
    simp only [List.append_assoc, List.cons_append, List.nil_append, htail]
  · rintro ⟨hpiece, before, after, hcut⟩
    have hpieces := congrArg (splitChars sep) hcut
    have houter : splitChars sep (sep :: cs ++ [sep]) =
        [] :: (splitChars sep cs ++ [[]]) := by
      rw [List.cons_append, ← List.nil_append (sep :: _), splitChars_append,
        splitChars_append]
      rfl
    have hinner : splitChars sep (before ++ (sep :: piece ++ [sep]) ++ after) =
        splitChars sep before ++ piece :: splitChars sep after := by
      rw [List.append_assoc, List.cons_append, List.cons_append,
        splitChars_append, List.append_assoc, List.singleton_append,
        splitChars_append, splitChars_of_notMem hpiece]
      rfl
    rw [houter, hinner] at hpieces
    -- the first and the last piece are those around the whole text
    cases hbefore : splitChars sep before with
    | nil => exact absurd hbefore (splitChars_ne_nil sep before)
    | cons first more =>
        rw [hbefore, ← List.dropLast_concat_getLast (splitChars_ne_nil sep after),
          List.cons_append, List.cons.injEq, ← List.cons_append,
          ← List.append_assoc] at hpieces
        rw [← (List.append_inj' hpieces.2 rfl).1]
        simp

/-- The two parts of a cut and the separator between them are the text, and
the first part holds no separator. -/
theorem cutChars?_eq_some {sep : Char} {cs before after : List Char}
    (h : cutChars? sep cs = some (before, after)) :
    cs = before ++ sep :: after ∧ sep ∉ before := by
  induction cs generalizing before with
  | nil => simp [cutChars?] at h
  | cons c rest ih =>
      by_cases hc : c = sep
      · simp only [cutChars?, hc, ↓reduceIte, Option.some.injEq,
          Prod.mk.injEq] at h
        obtain ⟨rfl, rfl⟩ := h
        simp [hc]
      · simp only [cutChars?, hc, ↓reduceIte, Option.map_eq_some_iff,
          Prod.mk.injEq, Prod.exists] at h
        obtain ⟨tail, right, hcut, rfl, rfl⟩ := h
        have := ih hcut
        simp [this.1, this.2, Ne.symm hc]

/-- A text is cut behind a part without separator. -/
theorem cutChars?_append {sep : Char} {before : List Char} (h : sep ∉ before)
    (after : List Char) :
    cutChars? sep (before ++ sep :: after) = some (before, after) := by
  induction before with
  | nil => simp [cutChars?]
  | cons c rest ih =>
      rw [List.mem_cons, not_or] at h
      rw [List.cons_append, cutChars?, if_neg (Ne.symm h.1), ih h.2]
      rfl

section Cut

variable {sep : Char} {cs before after : List Char}

theorem cutChars?_eq_none (h : cutChars? sep cs = none) : sep ∉ cs := by
  induction cs with
  | nil => exact List.not_mem_nil
  | cons first rest ih =>
      rw [cutChars?] at h
      split at h
      · cases h
      · rename_i hfirst
        rw [List.mem_cons, not_or]
        exact ⟨Ne.symm hfirst, ih (Option.map_eq_none_iff.1 h)⟩

theorem cutLastChars?_eq_none (h : cutLastChars? sep cs = none) : sep ∉ cs := by
  rw [← List.mem_reverse]
  exact cutChars?_eq_none (Option.map_eq_none_iff.1 h)

/-- The two parts of a cut at the last separator and the separator between them
are the text, and the second part holds no separator. -/
theorem cutLastChars?_eq_some
    (h : cutLastChars? sep cs = some (before, after)) :
    cs = before ++ sep :: after ∧ sep ∉ after := by
  obtain ⟨⟨behind, ahead⟩, hcut, heq⟩ := Option.map_eq_some_iff.1 h
  cases heq
  obtain ⟨hreverse, hbehind⟩ := cutChars?_eq_some hcut
  constructor
  · rw [← List.reverse_reverse cs, hreverse]
    simp
  · rwa [List.mem_reverse]

/-- A text is cut before a part without separator. -/
theorem cutLastChars?_append (h : sep ∉ after) (before : List Char) :
    cutLastChars? sep (before ++ sep :: after) = some (before, after) := by
  have hreverse : (before ++ sep :: after).reverse =
      after.reverse ++ sep :: before.reverse := by
    simp
  have hafter : sep ∉ after.reverse := by
    rwa [List.mem_reverse]
  rw [cutLastChars?, hreverse, cutChars?_append hafter]
  simp

end Cut

end Text
end RegionSnapshot
