/-
The last names of paths.  A location may end in a file name, behind a slash or
a colon where it is behind anything.  It still does when it is trimmed, freed
of its scheme and put below a directory, so the path that it leads to ends in
the name too; at most some text that ends in a colon stands before the name.
-/
import Mathlib.Data.List.Basic
import Mathlib.Data.List.Induction
import RegionSnapshot.Proofs.Files.Making
import RegionSnapshot.Proofs.Resource.Files

namespace RegionSnapshot

/-- What follows a start is the rest of the text. -/
theorem Text.after?_eq_some_iff {lead s rest : String} :
    after? lead s = some rest ↔ lead.toList ++ rest.toList = s.toList := by
  rw [after?, Option.map_eq_some_iff]
  simp only [List.isPrefixOf?_eq_some_iff_append_eq]
  constructor
  · rintro ⟨chars, h, rfl⟩
    rwa [String.toList_ofList]
  · intro h
    exact ⟨rest.toList, h, String.ofList_toList⟩

/-- A name that is a step of its own wherever it stands in a location: it has
no slash and no colon, no blank at either end, and is no step of dots. -/
structure IsFileName (name : String) : Prop where
  nonempty : name ≠ ""
  noSlash : '/' ∉ name.toList
  noColon : ':' ∉ name.toList
  front : name.toList.head?.any Text.isBlankChar = false
  back : name.toList.getLast?.any Text.isBlankChar = false
  notDots : name ≠ "." ∧ name ≠ ".."

/-- A text that a name may stand behind: one that ends in a slash or a colon,
or nothing. -/
def IsLead (lead : List Char) : Prop :=
  ∀ c, lead.getLast? = some c → c = '/' ∨ c = ':'

/-- The text ends in the name, behind a slash or a colon if behind anything. -/
def EndsIn (name text : String) : Prop :=
  ∃ lead, text.toList = lead ++ name.toList ∧ IsLead lead

theorem isLead_nil : IsLead [] := by
  intro c h
  cases h

theorem IsLead.append {first second : List Char} (h : IsLead first)
    (h' : IsLead second) : IsLead (first ++ second) := by
  intro c hc
  rw [List.getLast?_append, Option.or_eq_some_iff] at hc
  rcases hc with hc | ⟨-, hc⟩
  · exact h' c hc
  · exact h c hc

theorem IsLead.of_append {first second : List Char}
    (h : IsLead (first ++ second)) : IsLead second := by
  intro c hc
  apply h c
  rw [List.getLast?_append, hc]
  rfl

theorem isLead_of_endsWith {c : Char} {s : String} (hc : c = '/' ∨ c = ':')
    (h : Text.endsWith c s = true) : IsLead s.toList := by
  intro d hd
  rw [Text.endsWith, hd, beq_iff_eq, Option.some.injEq] at h
  rwa [h]

namespace EndsIn

variable {name text : String}

theorem dropWhile {p : Char → Bool} (h : EndsIn name text)
    (hname : name.toList.head?.any p = false) :
    EndsIn name (.ofList (text.toList.dropWhile p)) := by
  obtain ⟨lead, htext, hlead⟩ := h
  rw [EndsIn, String.toList_ofList, htext, List.dropWhile_append]
  split
  · rw [Text.dropWhile_eq_self hname]
    exact ⟨[], rfl, isLead_nil⟩
  · obtain ⟨dropped, hdropped⟩ := List.dropWhile_suffix (l := lead) p
    rw [← hdropped] at hlead
    exact ⟨lead.dropWhile p, rfl, hlead.of_append⟩

theorem trim (hname : IsFileName name) (h : EndsIn name text) :
    EndsIn name (Text.trim text) := by
  obtain ⟨lead, hlead⟩ := h.dropWhile hname.front
  have hends := hlead.1
  rw [String.toList_ofList] at hends
  refine ⟨lead, ?_, hlead.2⟩
  rw [Text.trim, String.toList_ofList, Text.trimChars, Text.trimStart, hends]
  apply Text.trimEnd_eq_self
  have hne : name.toList ≠ [] := by
    simpa using hname.nonempty
  rw [List.getLast?_append_of_ne_nil lead hne]
  exact hname.back

/-- What follows a scheme ends in the name, if the scheme does not reach into
the name. -/
theorem after {scheme rest : String} {c : Char} (h : EndsIn name text)
    (hafter : Text.after? scheme text = some rest)
    (hscheme : scheme.toList.getLast? = some c) (hname : c ∉ name.toList) :
    EndsIn name rest := by
  obtain ⟨lead, htext, hlead⟩ := h
  rw [Text.after?_eq_some_iff, htext, List.append_eq_append_iff] at hafter
  rcases hafter with ⟨more, rfl, hrest⟩ | ⟨part, hscheme', hname'⟩
  · exact ⟨more, hrest, hlead.of_append⟩
  · have hpart : part = [] := by
      by_contra hne
      rw [hscheme', List.getLast?_append_of_ne_nil lead hne] at hscheme
      apply hname
      rw [hname']
      exact List.mem_append_left _ (List.mem_of_getLast? hscheme)
    exact ⟨[], by simp [hname', hpart], isLead_nil⟩

theorem append (h : EndsIn name text) {before : String}
    (hbefore : IsLead before.toList) : EndsIn name (before ++ text) := by
  obtain ⟨lead, htext, hlead⟩ := h
  refine ⟨before.toList ++ lead, ?_, hbefore.append hlead⟩
  rw [String.toList_append, htext, List.append_assoc]

theorem refl (name : String) : EndsIn name name :=
  ⟨[], rfl, isLead_nil⟩

theorem join (h : EndsIn name text) (root : String) :
    EndsIn name (Path.join root text) := by
  rw [Path.join]
  split
  · exact h
  · split
    · rename_i hroot
      apply h.append
      rw [Bool.or_eq_true] at hroot
      rcases hroot with hempty | hslash
      · rw [String.isEmpty_iff.1 hempty]
        exact isLead_nil
      · exact isLead_of_endsWith (.inl rfl) hslash
    · apply h.append
      exact isLead_of_endsWith (.inl rfl) (by simp [Text.endsWith])

end EndsIn

/-- What is found is the name, perhaps behind a text that ends in a colon. -/
def Prefixed (name found : String) : Prop :=
  ∃ lead : List Char, found = .ofList (lead ++ name.toList) ∧
    ∀ c, lead.getLast? = some c → c = ':'

/-- A text that ends in a colon is no start of a text without colon. -/
theorem eq_of_append_eq {lead lead' name name' more : List Char}
    (hname : ':' ∉ name) (hlead' : ∀ c, lead'.getLast? = some c → c = ':')
    (hlead : lead' = lead ++ more) (heq : name = more ++ name') :
    name = name' := by
  rcases List.eq_nil_or_concat more with rfl | ⟨before, c, rfl⟩
  · exact heq
  · have hc : c = ':' := hlead' c (by simp [hlead])
    exact absurd (by simp [heq, hc]) hname

/-- Different file names are found as different names. -/
theorem Prefixed.unique {name other found : String} (hname : IsFileName name)
    (hother : IsFileName other) (h : Prefixed name found)
    (h' : Prefixed other found) : name = other := by
  obtain ⟨lead, rfl, hlead⟩ := h
  obtain ⟨lead', heq, hlead'⟩ := h'
  rw [String.ofList_inj] at heq
  rw [← String.toList_inj]
  rcases List.append_eq_append_iff.1 heq with
    ⟨more, hmore, hrest⟩ | ⟨more, hmore, hrest⟩
  · exact eq_of_append_eq hname.noColon hlead' hmore hrest
  · exact (eq_of_append_eq hother.noColon hlead hmore hrest).symm

/-- The last step of the path is the name. -/
def Path.Carries (path : Path) (name : String) : Prop :=
  ∃ found, path.steps.getLast? = some (.name found) ∧ Prefixed name found

/-- The last name of the place is the name. -/
def Bears (name : String) (place : Place) : Prop :=
  ∃ found, place.getLast? = some found ∧ Prefixed name found

theorem Path.Carries.bears {path : Path} {name : String} {place : Place}
    (h : path.Carries name) (hplace : path.Names place) : Bears name place := by
  obtain ⟨found, hfound, hname⟩ := h
  obtain ⟨last, hlast, hplace⟩ := hplace
  rw [hfound, Option.some.injEq, PathStep.name.injEq] at hlast
  exact ⟨found, hlast ▸ hplace, hname⟩

/-- No place bears two file names. -/
theorem Bears.unique {name other : String} {place : Place}
    (hname : IsFileName name) (hother : IsFileName other)
    (h : Bears name place) (h' : Bears other place) : name = other := by
  obtain ⟨found, hfound, hprefixed⟩ := h
  obtain ⟨found', hfound', hprefixed'⟩ := h'
  rw [hfound, Option.some.injEq] at hfound'
  exact hprefixed.unique hname hother (hfound' ▸ hprefixed')

/-- A text is cut behind its last slash. -/
theorem exists_around (cs : List Char) :
    ∃ around piece, cs = around ++ piece ∧ '/' ∉ piece ∧
      (around = [] ∨ ∃ before, around = before ++ ['/']) := by
  cases hcut : Text.cutLastChars? '/' cs with
  | none => exact ⟨[], cs, rfl, Text.cutLastChars?_eq_none hcut, .inl rfl⟩
  | some parts =>
      obtain ⟨before, piece⟩ := parts
      obtain ⟨rfl, hpiece⟩ := Text.cutLastChars?_eq_some hcut
      exact ⟨before ++ ['/'], piece, by simp, hpiece, .inr ⟨before, rfl⟩⟩

theorem exists_splitChars {around piece : List Char} (hpiece : '/' ∉ piece)
    (haround : around = [] ∨ ∃ before, around = before ++ ['/']) :
    ∃ pieces, Text.splitChars '/' (around ++ piece) = pieces ++ [piece] := by
  rcases haround with rfl | ⟨before, rfl⟩
  · exact ⟨[], Text.splitChars_of_notMem hpiece⟩
  · refine ⟨Text.splitChars '/' before, ?_⟩
    rw [List.append_assoc, List.singleton_append, Text.splitChars_append,
      Text.splitChars_of_notMem hpiece]

namespace IsFileName

variable {name : String}

/-- A file name makes a step, also behind a text that ends in a colon. -/
theorem ofPiece?_eq (h : IsFileName name) {lead : List Char}
    (hlead : ∀ c, lead.getLast? = some c → c = ':') :
    PathStep.ofPiece? (.ofList (lead ++ name.toList)) =
      some (.name (.ofList (lead ++ name.toList))) := by
  rcases List.eq_nil_or_concat lead with rfl | ⟨before, c, rfl⟩
  · rw [List.nil_append, String.ofList_toList, PathStep.ofPiece?,
      if_neg h.nonempty, if_neg h.notDots.1, if_neg h.notDots.2]
  · have hc : c = ':' := hlead c (by simp)
    have hmem : ':' ∈ (before.concat c ++ name.toList) := by
      simp [hc]
    have hne : ∀ s : String, ':' ∉ s.toList →
        String.ofList (before.concat c ++ name.toList) ≠ s := by
      rintro s hs rfl
      rw [String.toList_ofList] at hs
      exact hs hmem
    rw [PathStep.ofPiece?, if_neg (hne "" (by decide)),
      if_neg (hne "." (by decide)), if_neg (hne ".." (by decide))]

/-- A text that ends in a file name is a path to that name. -/
theorem carries_ofText (h : IsFileName name) {text : String}
    (hends : EndsIn name text) : (Path.ofText text).Carries name := by
  obtain ⟨lead, htext, hlead⟩ := hends
  -- what stands behind the last slash is one piece with the name
  obtain ⟨around, piece, rfl, hpiece, haround⟩ := exists_around lead
  have hnoSlash : '/' ∉ piece ++ name.toList := by
    simp [hpiece, h.noSlash]
  obtain ⟨pieces, hpieces⟩ := exists_splitChars hnoSlash haround
  have hcolon : ∀ c, piece.getLast? = some c → c = ':' := by
    intro c hc
    rcases hlead.of_append c hc with rfl | rfl
    · exact absurd (List.mem_of_getLast? hc) hpiece
    · rfl
  refine ⟨.ofList (piece ++ name.toList), ?_, piece, rfl, hcolon⟩
  rw [Path.ofText, Text.fields, htext, List.append_assoc, hpieces]
  dsimp only
  rw [List.map_append, List.map_singleton, List.filterMap_append,
    List.filterMap_cons_some (h.ofPiece?_eq hcolon), List.filterMap_nil,
    List.getLast?_concat]

end IsFileName

variable {name : String}

/-! From a location to the paths behind its resource. -/

theorem carries_ofEntry (hname : IsFileName name) {entry : String}
    (hends : EndsIn name entry) (tree : FileTree) (roots : List String)
    (location : String) {path : Path}
    (hpath : (Resource.ofEntry tree roots location entry).path? = some path) :
    path.Carries name := by
  obtain ⟨text, hfound, rfl⟩ := Option.map_eq_some_iff.1 hpath
  obtain ⟨root, -, rfl⟩ := List.mem_map.1 (List.mem_of_find?_eq_some hfound)
  have hslash : name.toList.head?.any (· = '/') = false := by
    rw [Option.any_eq_false]
    rintro c hc
    rw [decide_eq_false_iff_not]
    rintro rfl
    exact hname.noSlash (List.mem_of_head? hc)
  exact hname.carries_ofText ((hends.dropWhile hslash).join root)

/-- The paths behind the resource of a location that ends in a file name carry
that name. -/
theorem Loader.carries_of_load? {loader : Loader} {tree : FileTree}
    {text : String} {r : Resource} (hname : IsFileName name)
    (hends : EndsIn name text) (h : loader.load? tree text = some r)
    {path : Path} (hpath : r.path? = some path) : path.Carries name := by
  have htrim := hends.trim hname
  rw [load?] at h
  split at h
  · cases h
  · split at h
    · -- an entry of the class path
      rename_i entry hentry
      cases h
      have hrest := htrim.after hentry (c := ':') (by decide) hname.noColon
      exact carries_ofEntry hname hrest tree _ _ hpath
    · split at h
      · -- a file, perhaps with two slashes before its path
        rename_i rest hrest
        have hafter := htrim.after hrest (c := ':') (by decide) hname.noColon
        have hfile : EndsIn name ((Text.after? "//" rest).getD rest) := by
          cases hslashes : Text.after? "//" rest with
          | none => exact hafter
          | some more =>
              exact hafter.after hslashes (c := '/') (by decide) hname.noSlash
        dsimp only at h
        split at h
        · cases h
        · rw [← Option.some.inj h] at hpath
          rw [← Option.some.inj hpath]
          exact hname.carries_ofText hfile
      · split at h
        · -- an address on the network has no path
          cases h
          cases hpath
        · split at h
          · cases h
          · cases h
            rw [loadBare] at hpath
            split at hpath
            · exact carries_ofEntry hname htrim tree _ _ hpath
            · rw [← Option.some.inj hpath]
              exact hname.carries_ofText (htrim.join _)

namespace Resource

/-- The place has the last name of the path behind the resource. -/
def Names (r : Resource) (place : Place) : Prop :=
  ∃ path, r.path? = some path ∧ path.Names place

theorem names_of_openWrite {r : Resource} {tree after : FileTree}
    {place : Place} (h : r.openWrite tree = (.ok place, after)) :
    r.Names place := by
  obtain ⟨location, text, rfl, hopen⟩ := exists_of_openWrite h
  exact ⟨_, rfl, FileTree.names_of_openForWriting hopen⟩

variable {written : Place → Prop}

theorem spares_openWrite {r : Resource}
    (h : ∀ place, r.Names place → written place) (tree : FileTree) :
    FileTree.Spares written tree (r.openWrite tree).2 := by
  cases r with
  | file location path =>
      have hspares : FileTree.Spares written tree
          (tree.openForWriting (.ofText path)).2 :=
        FileTree.spares_openForWriting
          (fun place hnames => h place ⟨_, rfl, hnames⟩) tree
      rw [openWrite]
      split
      · rename_i hopen
        rwa [hopen] at hspares
      · rename_i hopen
        rwa [hopen] at hspares
  | classpath | memory | url => exact .refl tree

/-- Writing to a resource writes no file but one that has its name. -/
theorem spares_write {r : Resource}
    (h : ∀ place, r.Names place → written place) (size : Nat)
    (tree : FileTree) (bytes : Bytes) :
    FileTree.Spares written tree (r.write size tree bytes).2 := by
  have hopen := spares_openWrite h tree
  rw [write]
  cases hopened : r.openWrite tree with
  | mk opened after =>
      rw [hopened] at hopen
      dsimp only
      split
      · exact .refl tree
      · split
        · rename_i place sent _
          have hnames := names_of_openWrite hopened
          have hne : place ≠ [] := hnames.elim (fun _ hpath => hpath.2.ne_nil)
          exact hopen.trans (.overwrite hne (h place hnames) _)
        · exact hopen

end Resource
end RegionSnapshot
