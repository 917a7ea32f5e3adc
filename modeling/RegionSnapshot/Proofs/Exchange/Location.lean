/-
Blank locations.  A template never gives one.  A path and the name of a
resource do in one case only: there is no path, the name of the region is
blank, and the pattern of names holds nothing else but blanks beside its holes.
-/
import RegionSnapshot.Proofs.Exchange.Apart
import RegionSnapshot.Proofs.Text.Blank

namespace RegionSnapshot

theorem Environment.not_isBlank_of_nonBlank? {env : Environment}
    {name value : String} (h : env.nonBlank? name = some value) :
    Text.isBlank value = false := by
  simpa using (Option.filter_eq_some_iff.1 h).2

namespace Settings

/-- The pattern has a hole, and nothing but blanks beside its holes. -/
def OnlyHoles (pattern : String) : Prop :=
  Text.occursIn hole pattern.toList = true ∧
    (fill [] pattern.toList).all Text.isBlankChar = true

/-- All of a filled pattern is what stands beside its holes, and the filling if
it has one. -/
theorem all_fill (p : Char → Bool) (filling pattern : List Char) :
    (fill filling pattern).all p = ((fill [] pattern).all p &&
      (!Text.occursIn hole pattern || filling.all p)) := by
  induction pattern using fill.induct with
  | case1 rest ih =>
      have hhole : Text.occursIn hole ('\x7b' :: '\x7d' :: rest) = true := by
        simp [Text.occursIn, hole]
      rw [fill, fill, List.all_append, ih, hhole, List.nil_append]
      cases filling.all p <;> simp
  | case2 c rest hnot ih =>
      have hhole : Text.occursIn hole (c :: rest) = Text.occursIn hole rest := by
        have hprefix : hole.isPrefixOf (c :: rest) = false := by
          rw [Bool.eq_false_iff]
          intro hprefix
          obtain ⟨more, hmore⟩ := List.isPrefixOf_iff_prefix.1 hprefix
          cases hmore
          exact hnot more rfl rfl
        rw [Text.occursIn, hprefix, Bool.false_or]
      rw [fill, fill, List.all_cons, List.all_cons, ih, hhole, Bool.and_assoc]
      · exact hnot
      · exact hnot
  | case3 => rfl

theorem not_isBlank_namePattern (env : Environment) :
    Text.isBlank (namePattern env) = false := by
  rw [namePattern]
  cases hset : env.nonBlank? namePatternProperty with
  | none => decide
  | some pattern => exact Environment.not_isBlank_of_nonBlank? hset

/-- The name of a resource is blank exactly if the name of the region is, and
the pattern gives it no other character. -/
theorem isBlank_resourceName_iff (env : Environment) (region : RegionId) :
    Text.isBlank (resourceName env region) = true ↔
      Text.isBlank region.name = true ∧ OnlyHoles (namePattern env) := by
  have hname : (Text.toLower region.name).toList.all Text.isBlankChar =
      Text.isBlank region.name := Text.isBlank_toLower region.name
  by_cases hhole : Text.occursIn hole (namePattern env).toList = true
  · have hfilled : resourceName env region =
        .ofList (fill (Text.toLower region.name).toList
          (namePattern env).toList) := if_pos hhole
    rw [hfilled, Text.isBlank, String.toList_ofList, all_fill, hname, hhole,
      OnlyHoles, and_iff_right hhole, Bool.not_true, Bool.false_or,
      Bool.and_eq_true, and_comm]
  · have happended : resourceName env region =
        .ofList ((Text.toLower region.name).toList ++
          (namePattern env).toList) := if_neg hhole
    rw [happended, String.ofList_append, Text.isBlank_append,
      String.ofList_toList, String.ofList_toList, not_isBlank_namePattern,
      Bool.and_false]
    constructor
    · intro h
      cases h
    · rintro ⟨-, hholes⟩
      exact absurd hholes.1 hhole

end Settings

namespace LocationRule

/-- No template gives the location. -/
def Untemplated (rule : LocationRule) : Prop :=
  ∀ env, rule.environment = some env → env.nonBlank? rule.override = none

theorem not_isBlank_of_endsWith {c : Char} (hc : Text.isBlankChar c = false)
    {s : String} (h : Text.endsWith c s = true) : Text.isBlank s = false := by
  rw [Text.endsWith, beq_iff_eq] at h
  rw [Text.isBlank, List.all_eq_false]
  exact ⟨c, List.mem_of_getLast? h, by rw [hc]; decide⟩

/-- A slash or a colon is not blank, so only a name without path can be. -/
theorem isBlank_join_iff (path name : String) :
    Text.isBlank (join path name) = true ↔
      path = "" ∧ Text.isBlank name = true := by
  by_cases hpath : path = ""
  · rw [hpath, join, if_pos (by decide), String.empty_append]
    exact (and_iff_right rfl).symm
  · have hnot : Text.isBlank (join path name) = false := by
      rw [join]
      split
      · rename_i hends
        rw [Bool.or_eq_true, Bool.or_eq_true, String.isEmpty_iff,
          or_iff_right hpath] at hends
        rw [Text.isBlank_append]
        rcases hends with hslash | hcolon
        · rw [not_isBlank_of_endsWith (by decide) hslash, Bool.false_and]
        · rw [not_isBlank_of_endsWith (by decide) hcolon, Bool.false_and]
      · have hslash : Text.isBlank "/" = false := by decide
        rw [Text.isBlank_append, Text.isBlank_append, hslash, Bool.and_false,
          Bool.false_and]
    rw [hnot]
    constructor
    · intro h
      cases h
    · rintro ⟨hempty, -⟩
      exact absurd hempty hpath

theorem not_isBlank_of_fromTemplate {ctx : Context} {template location : String}
    (h : fromTemplate ctx template = .ok location) :
    Text.isBlank location = false := by
  rw [fromTemplate] at h
  split at h
  · cases h
  · split at h
    · cases h
    · rename_i hblank
      cases h
      simpa using hblank

/-- A location comes from a template and is not blank, or there is no template
and it is the path and the name of the resource. -/
theorem location_cases {rule : LocationRule} {region : RegionId}
    {location : String} (h : rule.location region = .ok location) :
    ¬rule.Untemplated ∧ Text.isBlank location = false ∨
      rule.Untemplated ∧
        location = join rule.path (rule.resourceName region) := by
  rw [LocationRule.location] at h
  dsimp only at h
  split at h
  · rename_i env template htemplate
    obtain ⟨found, henv, hset⟩ := Option.bind_eq_some_iff.1 htemplate
    obtain ⟨value, hvalue, heq⟩ := Option.map_eq_some_iff.1 hset
    refine .inl ⟨fun huntemplated => ?_, not_isBlank_of_fromTemplate h⟩
    rw [huntemplated found henv] at hvalue
    cases hvalue
  · rename_i hnone
    cases h
    refine .inr ⟨fun env henv => ?_, rfl⟩
    rw [henv, Option.bind_some, Option.map_eq_none_iff] at hnone
    exact hnone

/-- A location is blank in one case only: there is no template and no path, and
a blank name is put into a pattern of nothing but holes and blanks. -/
theorem exists_blank_location_iff (rule : LocationRule) (region : RegionId) :
    (∃ location, rule.location region = .ok location ∧
      Text.isBlank location = true) ↔
      rule.Untemplated ∧ rule.path = "" ∧ Text.isBlank region.name = true ∧
        Settings.OnlyHoles
          (Settings.namePattern (rule.environment.getD .empty)) := by
  constructor
  · rintro ⟨location, hlocation, hblank⟩
    rcases location_cases hlocation with ⟨-, hnot⟩ | ⟨huntemplated, rfl⟩
    · rw [hblank] at hnot
      cases hnot
    · obtain ⟨hpath, hname⟩ := (isBlank_join_iff _ _).1 hblank
      exact ⟨huntemplated, hpath,
        (Settings.isBlank_resourceName_iff _ _).1 hname⟩
  · rintro ⟨huntemplated, hpath, hname⟩
    have hconventional : rule.Conventional := ⟨huntemplated, hname.2.1⟩
    refine ⟨_, hconventional.location_eq region, ?_⟩
    rw [isBlank_join_iff]
    exact ⟨hpath, (Settings.isBlank_resourceName_iff _ _).2 hname⟩

/-- A rule without path, whose pattern of names is a hole. -/
def bareRule : LocationRule :=
  ⟨some (Environment.empty.withProperty Settings.namePatternProperty
    (.ofList Settings.hole)), [], Settings.importLocationProperty, ""⟩

theorem exists_blank_location_bare :
    (∃ location, bareRule.location (.root " ") = .ok location ∧
      Text.isBlank location = true) ∧
    ¬∃ location, bareRule.location (.root "Trees") = .ok location ∧
      Text.isBlank location = true := by
  have huntemplated : bareRule.Untemplated := by
    rintro env ⟨⟩
    decide
  constructor
  · exact (exists_blank_location_iff bareRule (.root " ")).2
      ⟨huntemplated, rfl, by decide, by decide, by decide⟩
  · rw [exists_blank_location_iff]
    rintro ⟨-, -, hname, -⟩
    revert hname
    decide

end LocationRule
end RegionSnapshot
