/-
Regions apart.  Where locations follow the names of regions, two regions share
a location exactly if their simple names agree but for case, whatever their
paths are.  Regions with other names are kept in other files as long as the
names of their resources are file names: exporting one of them leaves the file
of the other as it is, and importing it does not depend on that file.
-/
import RegionSnapshot.Proofs.Exchange.Save
import RegionSnapshot.Proofs.Resource.LastNames

namespace RegionSnapshot

namespace Settings

/-- The pattern of the names of resources. -/
def namePattern (env : Environment) : String :=
  (env.nonBlank? namePatternProperty).getD defaultNamePattern

theorem length_fill_le {a b : List Char} (h : a.length ≤ b.length)
    (pattern : List Char) :
    (fill a pattern).length ≤ (fill b pattern).length := by
  induction pattern using fill.induct with
  | case1 rest ih =>
      rw [fill, fill, List.length_append, List.length_append]
      exact Nat.add_le_add h ih
  | case2 c rest hnot ih =>
      rw [fill, fill, List.length_cons, List.length_cons]
      · exact Nat.succ_le_succ ih
      · exact hnot
      · exact hnot
  | case3 => exact Nat.le_refl _

/-- Of two fillings of a hole the shorter one is the other one too, if they
give the same text. -/
theorem eq_of_fill_eq {a b : List Char} (h : a.length ≤ b.length)
    {pattern : List Char} (hhole : Text.occursIn hole pattern = true)
    (heq : fill a pattern = fill b pattern) : a = b := by
  induction pattern using fill.induct with
  | case1 rest ih =>
      rw [fill, fill] at heq
      -- the rest filled with `a` is no longer than that filled with `b`, so
      -- neither text has room for more than the other
      rcases List.append_eq_append_iff.1 heq with
        ⟨more, hmore, hrest⟩ | ⟨more, hmore, hrest⟩
      · have hlength := congrArg List.length hrest
        have hle := length_fill_le h rest
        rw [List.length_append] at hlength
        have hnil : more = [] := List.length_eq_zero_iff.1 (by omega)
        rw [hmore, hnil, List.append_nil]
      · have hlength := congrArg List.length hmore
        rw [List.length_append] at hlength
        have hnil : more = [] := List.length_eq_zero_iff.1 (by omega)
        rw [hmore, hnil, List.append_nil]
  | case2 c rest hnot ih =>
      have hrest : Text.occursIn hole rest = true := by
        rw [Text.occursIn, Bool.or_eq_true] at hhole
        rcases hhole with hprefix | hrest
        · obtain ⟨more, hmore⟩ := List.isPrefixOf_iff_prefix.1 hprefix
          cases hmore
          exact absurd rfl (hnot more rfl)
        · exact hrest
      rw [fill, fill] at heq
      · exact ih hrest (List.cons.inj heq).2
      · exact hnot
      · exact hnot
  | case3 => cases hhole

theorem resourceName_eq_iff {env : Environment}
    (hhole : Text.occursIn hole (namePattern env).toList = true)
    (r s : RegionId) :
    resourceName env r = resourceName env s ↔
      Text.toLower r.name = Text.toLower s.name := by
  have hname : ∀ region : RegionId, resourceName env region =
      .ofList (fill (Text.toLower region.name).toList
        (namePattern env).toList) := by
    intro region
    exact if_pos hhole
  rw [hname, hname, String.ofList_inj, ← String.toList_inj]
  constructor
  · intro heq
    rcases Nat.le_total (Text.toLower r.name).toList.length
      (Text.toLower s.name).toList.length with hle | hle
    · exact eq_of_fill_eq hle hhole heq
    · exact (eq_of_fill_eq hle hhole heq.symm).symm
  · intro heq
    rw [heq]

end Settings

namespace LocationRule

/-- No template gives the location, and the pattern of names has a hole. -/
structure Conventional (rule : LocationRule) : Prop where
  untemplated : ∀ env, rule.environment = some env →
    env.nonBlank? rule.override = none
  hole : Text.occursIn Settings.hole
    (Settings.namePattern (rule.environment.getD .empty)).toList = true

/-- The name of the resource of a region. -/
def resourceName (rule : LocationRule) (region : RegionId) : String :=
  Settings.resourceName (rule.environment.getD .empty) region

theorem endsIn_join (path name : String) : EndsIn name (join path name) := by
  have hname := EndsIn.refl name
  rw [join]
  split
  · rename_i hpath
    apply hname.append
    rw [Bool.or_eq_true, Bool.or_eq_true] at hpath
    rcases hpath with (hempty | hslash) | hcolon
    · rw [String.isEmpty_iff.1 hempty]
      exact isLead_nil
    · exact isLead_of_endsWith (.inl rfl) hslash
    · exact isLead_of_endsWith (.inr rfl) hcolon
  · apply hname.append
    exact isLead_of_endsWith (.inl rfl) (by simp [Text.endsWith])

theorem join_inj {path name other : String} :
    join path name = join path other ↔ name = other := by
  constructor
  · intro heq
    rw [join, join] at heq
    split at heq <;> exact (String.append_right_inj _).1 heq
  · intro heq
    rw [heq]

variable {rule : LocationRule}

theorem Conventional.location_eq (h : rule.Conventional) (region : RegionId) :
    rule.location region = .ok (join rule.path (rule.resourceName region)) := by
  rw [location]
  cases henv : rule.environment with
  | none => simp [henv, resourceName]
  | some env =>
      have hnone := h.untemplated env henv
      simp [hnone, henv, resourceName]

/-- Two regions share a location exactly if their names agree but for case. -/
theorem Conventional.exists_locations (h : rule.Conventional)
    (r s : RegionId) :
    ∃ first second, rule.location r = .ok first ∧
      rule.location s = .ok second ∧
      (first = second ↔ Text.toLower r.name = Text.toLower s.name) :=
  ⟨_, _, h.location_eq r, h.location_eq s,
    join_inj.trans (Settings.resourceName_eq_iff h.hole r s)⟩

end LocationRule

/-! What is found for a region. -/

theorem Resolver.load?_of_resolve {tree : FileTree} {location : String}
    {loader : Loader} {mustExist : Bool} {r : Resource}
    (h : (Resolver.loading loader mustExist none).resolve tree location =
      .ok r) : loader.load? tree location = some r := by
  rw [resolve] at h
  split at h
  · cases h
  · dsimp only at h
    rw [Option.or_none] at h
    split at h
    · rename_i found hfound
      cases h
      exact (Option.filter_eq_some_iff.1 hfound).1
    · cases h

theorem RegionResolver.checkImport_eq_ok {tree : FileTree} {region : RegionId}
    {found : Except ResourceError Resource} {r : Resource}
    (h : checkImport tree region found = .ok r) :
    found = .ok r ∧ r.isReadable tree = true := by
  rw [checkImport.eq_def] at h
  split at h
  · cases h
  · cases h
  · split at h
    · cases h
    · split at h
      · cases h
      · rename_i hreadable
        cases h
        exact ⟨rfl, by simpa using hreadable⟩

namespace LocationRule.Conventional

variable {rule : LocationRule} {tree : FileTree} {region : RegionId}
variable {loader : Loader} {mustExist : Bool} {r : Resource} {path : Path}

/-- A path of the resource to which a region is exported carries the name of
the region. -/
theorem carries_of_exporting (h : rule.Conventional)
    (hname : IsFileName (rule.resourceName region))
    (hresolve : (RegionResolver.exporting rule
      (.loading loader mustExist none)).resolve tree region = .ok (some r))
    (hpath : r.path? = some path) : path.Carries (rule.resourceName region) := by
  rw [RegionResolver.resolve, h.location_eq] at hresolve
  have hends := LocationRule.endsIn_join rule.path (rule.resourceName region)
  obtain ⟨location, hlocation, hresolve⟩ := Outcome.bind_eq_ok_iff.1 hresolve
  cases hlocation
  split at hresolve
  · rename_i found hfound
    cases hresolve
    exact Loader.carries_of_load? hname hends
      (Resolver.load?_of_resolve hfound) hpath
  · cases hresolve
  · cases hresolve

/-- So does a path of the resource from which a region is imported, and the
resource can be read. -/
theorem carries_of_importing (h : rule.Conventional)
    (hname : IsFileName (rule.resourceName region))
    (hresolve : (RegionResolver.importing rule
      (.loading loader mustExist none)).resolve tree region = .ok (some r))
    (hpath : r.path? = some path) :
    path.Carries (rule.resourceName region) ∧ r.isReadable tree = true := by
  rw [RegionResolver.resolve, h.location_eq] at hresolve
  have hends := LocationRule.endsIn_join rule.path (rule.resourceName region)
  obtain ⟨location, hlocation, hresolve⟩ := Outcome.bind_eq_ok_iff.1 hresolve
  cases hlocation
  obtain ⟨found, hcheck, hresolve⟩ := Outcome.bind_eq_ok_iff.1 hresolve
  cases hresolve
  obtain ⟨hfound, hreadable⟩ := RegionResolver.checkImport_eq_ok hcheck
  exact ⟨Loader.carries_of_load? hname hends
    (Resolver.load?_of_resolve hfound) hpath, hreadable⟩

end LocationRule.Conventional

/-- The resource that is found for a region leads to the place. -/
def RegionResolver.Reaches (resolver : RegionResolver) (tree : FileTree)
    (region : RegionId) (place : Place) : Prop :=
  ∃ resource path node, resolver.resolve tree region = .ok (some resource) ∧
    resource.path? = some path ∧ tree.locate path = .ok (place, node)

namespace Exchange

variable {α : Type}

/-- Exporting or importing the region leads to the place. -/
def Reaches (x : Exchange α) (tree : FileTree) (region : RegionId)
    (place : Place) : Prop :=
  x.exportTo.Reaches tree region place ∨ x.importFrom.Reaches tree region place

/-- The two regions have different files, and the first one does not touch the
file of the second.  Exporting the first region leaves that file as it is, and
importing the second region thereafter finds a file that stood before.
Importing the second region does not depend on what is in the file of the
first. -/
structure Apart (x : Exchange α) (r s : Region α) : Prop where
  files : ∀ tree other place, x.Reaches tree r.id place →
    ¬x.Reaches other s.id place
  written : ∀ tree place, x.Reaches tree s.id place →
    (x.exportNow tree r).2.node? place = tree.node? place
  found : ∀ tree place,
    x.importFrom.Reaches (x.exportNow tree r).2 s.id place →
      (x.exportNow tree r).2.node? place = tree.node? place
  read : ∀ tree other : FileTree, other.SameShape tree →
    (∀ place, other.node? place ≠ tree.node? place →
      x.Reaches tree r.id place) →
    x.importNow other s = x.importNow tree s

/-- Exports and imports follow the names of regions, by rules for one
environment, and take what their loaders find. -/
structure FollowsNames (x : Exchange α) (exportRule importRule : LocationRule) :
    Prop where
  exports : ∃ loader mustExist,
    x.exportTo = .exporting exportRule (.loading loader mustExist none)
  imports : ∃ loader mustExist,
    x.importFrom = .importing importRule (.loading loader mustExist none)
  environment : exportRule.environment = importRule.environment
  exportRule : exportRule.Conventional
  importRule : importRule.Conventional

namespace FollowsNames

variable {x : Exchange α} {exportRule importRule : LocationRule}
variable {tree : FileTree} {region : RegionId} {r : Resource} {path : Path}

theorem resourceName_eq (h : x.FollowsNames exportRule importRule)
    (region : RegionId) :
    importRule.resourceName region = exportRule.resourceName region := by
  rw [LocationRule.resourceName, LocationRule.resourceName, h.environment]

theorem carries_of_export (h : x.FollowsNames exportRule importRule)
    (hname : IsFileName (exportRule.resourceName region))
    (hresolve : x.exportTo.resolve tree region = .ok (some r))
    (hpath : r.path? = some path) :
    path.Carries (exportRule.resourceName region) := by
  obtain ⟨loader, mustExist, hloads⟩ := h.exports
  rw [hloads] at hresolve
  exact h.exportRule.carries_of_exporting hname hresolve hpath

theorem carries_of_import (h : x.FollowsNames exportRule importRule)
    (hname : IsFileName (exportRule.resourceName region))
    (hresolve : x.importFrom.resolve tree region = .ok (some r))
    (hpath : r.path? = some path) :
    path.Carries (exportRule.resourceName region) ∧
      r.isReadable tree = true := by
  obtain ⟨loader, mustExist, hloads⟩ := h.imports
  rw [hloads] at hresolve
  rw [← h.resourceName_eq] at hname ⊢
  exact h.importRule.carries_of_importing hname hresolve hpath

theorem bears_of_reaches (h : x.FollowsNames exportRule importRule)
    (hname : IsFileName (exportRule.resourceName region)) {place : Place}
    (hreaches : x.Reaches tree region place) :
    Bears (exportRule.resourceName region) place := by
  have hcarries : ∃ path node, path.Carries (exportRule.resourceName region) ∧
      tree.locate path = .ok (place, node) := by
    rcases hreaches with ⟨r, path, node, hresolve, hpath, hlocate⟩ |
      ⟨r, path, node, hresolve, hpath, hlocate⟩
    · exact ⟨path, node, h.carries_of_export hname hresolve hpath, hlocate⟩
    · exact ⟨path, node, (h.carries_of_import hname hresolve hpath).1, hlocate⟩
  obtain ⟨path, node, hpath, hlocate⟩ := hcarries
  obtain ⟨found, hlast, -⟩ := id hpath
  exact hpath.bears (FileTree.names_of_locate hlast hlocate)

end FollowsNames

/-- An export writes no file but one that has the name of a resource to which
the region is exported. -/
theorem spares_exportNow {x : Exchange α} {tree : FileTree} {region : Region α}
    {written : Place → Prop}
    (h : ∀ r place, x.exportTo.resolve tree region.id = .ok (some r) →
      r.Names place → written place) :
    FileTree.Spares written tree (x.exportNow tree region).2 := by
  rw [exportNow]
  split
  · exact .refl tree
  · exact .refl tree
  · rename_i r hresolve
    split
    · exact .refl tree
    · split
      · exact .refl tree
      · rename_i bytes hencode
        have hwrite : FileTree.Spares written tree
            (x.writer.write tree r bytes).2 := by
          cases x.writer with
          | buffered size =>
              exact Resource.spares_write (fun place => h r place hresolve) size
                tree bytes
          | refusing => exact .refl tree
          | failing cause => exact .refl tree
        split
        · rename_i hwritten
          rwa [hwritten] at hwrite
        · rename_i hwritten
          rwa [hwritten] at hwrite

/-- An import depends on the files only by the resource that is found and what
is read from it. -/
theorem importNow_congr {x : Exchange α} {first second : FileTree}
    {region : Region α}
    (hresolve : x.importFrom.resolve first region.id =
      x.importFrom.resolve second region.id)
    (hread : ∀ r, x.importFrom.resolve second region.id = .ok (some r) →
      r.read x.readSize first = r.read x.readSize second) :
    x.importNow first region = x.importNow second region := by
  rw [importNow, importNow, hresolve]
  split
  · rfl
  · split
    · rfl
    · rfl
    · rename_i r hfound
      rw [hread r hfound]

theorem Reaches.exists_node {x : Exchange α} {tree : FileTree}
    {region : RegionId} {place : Place} (h : x.Reaches tree region place) :
    ∃ node, tree.node? place = some node := by
  rcases h with ⟨r, path, node, -, -, hlocate⟩ | ⟨r, path, node, -, -, hlocate⟩
  · exact ⟨node, (FileTree.locate_eq_ok_iff.1 hlocate).2.2.1⟩
  · exact ⟨node, (FileTree.locate_eq_ok_iff.1 hlocate).2.2.1⟩

namespace FollowsNames

variable {x : Exchange α} {exportRule importRule : LocationRule}
variable {tree other : FileTree} {region r s : Region α} {place : Place}

/-- An export writes no file but those that bear the name of the region. -/
theorem spares_exportNow (h : x.FollowsNames exportRule importRule)
    (hname : IsFileName (exportRule.resourceName region.id))
    (tree : FileTree) :
    FileTree.Spares (Bears (exportRule.resourceName region.id)) tree
      (x.exportNow tree region).2 := by
  apply Exchange.spares_exportNow
  rintro found place hresolve ⟨path, hpath, hplace⟩
  exact (h.carries_of_export hname hresolve hpath).bears hplace

/-- What an import finds is a file, as the resource can be read. -/
theorem exists_file (h : x.FollowsNames exportRule importRule)
    (hname : IsFileName (exportRule.resourceName region.id))
    (hreaches : x.importFrom.Reaches tree region.id place) :
    ∃ content access, tree.node? place = some (.file content access) := by
  obtain ⟨found, path, node, hresolve, hpath, hlocate⟩ := hreaches
  have hreadable := (h.carries_of_import hname hresolve hpath).2
  rw [Resource.isReadable_of_path? hpath, FileTree.isReadable,
    Bool.and_eq_true] at hreadable
  have hfile := hreadable.1
  rw [FileTree.isFile, FileTree.find?, hlocate] at hfile
  have hnode := (FileTree.locate_eq_ok_iff.1 hlocate).2.2.1
  cases node with
  | directory access => cases hfile
  | file content access => exact ⟨content, access, hnode⟩

/-- An import depends on no files but those that bear the name of the
region. -/
theorem importNow_eq (h : x.FollowsNames exportRule importRule)
    (hname : IsFileName (exportRule.resourceName region.id))
    (hshape : other.SameShape tree)
    (hsame : ∀ place, Bears (exportRule.resourceName region.id) place →
      other.node? place = tree.node? place) :
    x.importNow other region = x.importNow tree region := by
  apply importNow_congr (RegionResolver.resolve_eq hshape region.id x.importFrom)
  intro found hresolve
  apply Resource.read_congr
  intro path hpath
  have hcarries := (h.carries_of_import hname hresolve hpath).1
  obtain ⟨last, hlast, -⟩ := id hcarries
  have hlocate : other.locate path = tree.locate path :=
    hshape.locate_eq hlast (fun place hplace =>
      hsame place (hcarries.bears hplace))
  rw [FileTree.content, FileTree.content, FileTree.openForReading,
    FileTree.openForReading, hlocate]

/-- Regions whose names differ not only by case are kept apart. -/
theorem apart (h : x.FollowsNames exportRule importRule)
    (hr : IsFileName (exportRule.resourceName r.id))
    (hs : IsFileName (exportRule.resourceName s.id))
    (hne : Text.toLower r.name ≠ Text.toLower s.name) : x.Apart r s := by
  have hnames :
      exportRule.resourceName r.id ≠ exportRule.resourceName s.id :=
    fun heq => hne ((Settings.resourceName_eq_iff h.exportRule.hole _ _).1 heq)
  have hother : ∀ place, Bears (exportRule.resourceName s.id) place →
      ¬Bears (exportRule.resourceName r.id) place :=
    fun place hbears hbears' => hnames (hbears'.unique hr hs hbears)
  refine ⟨?_, ?_, ?_, ?_⟩
  · intro tree other place hreaches hreaches'
    exact hother place (h.bears_of_reaches hs hreaches')
      (h.bears_of_reaches hr hreaches)
  · intro tree place hreaches
    obtain ⟨node, hnode⟩ := hreaches.exists_node
    have hbears := hother place (h.bears_of_reaches hs hreaches)
    rw [hnode, (h.spares_exportNow hr tree).node_of_stands hbears hnode]
  · intro tree place hreaches
    obtain ⟨content, access, hnode⟩ := h.exists_file hs hreaches
    have hbears := hother place (h.bears_of_reaches hs (.inr hreaches))
    rw [hnode, (h.spares_exportNow hr tree).node_of_file hbears hnode]
  · intro tree other hshape hdiffers
    apply h.importNow_eq hs hshape
    intro place hbears
    by_contra hdiffer
    exact hother place hbears (h.bears_of_reaches hr (hdiffers place hdiffer))

end FollowsNames

/-- Where locations follow names, two regions have one location exactly if
their simple names agree but for case; and regions with other names are kept
apart, if the names of their resources are file names. -/
theorem apart_of_names {x : Exchange α} {exportRule importRule : LocationRule}
    (h : x.FollowsNames exportRule importRule) (r s : Region α) :
    (∀ rule, rule = exportRule ∨ rule = importRule →
      ∃ first second, rule.location r.id = .ok first ∧
        rule.location s.id = .ok second ∧
        (first = second ↔ Text.toLower r.name = Text.toLower s.name)) ∧
    (IsFileName (exportRule.resourceName r.id) →
      IsFileName (exportRule.resourceName s.id) →
      Text.toLower r.name ≠ Text.toLower s.name → x.Apart r s) := by
  refine ⟨?_, fun hr hs hne => h.apart hr hs hne⟩
  rintro rule (rfl | rfl)
  · exact h.exportRule.exists_locations r.id s.id
  · exact h.importRule.exists_locations r.id s.id

theorem apart_of_names_data :
    ∃ exportRule importRule,
      dataExchange.FollowsNames exportRule importRule ∧
      IsFileName (exportRule.resourceName (.root "Trees")) ∧
      IsFileName (exportRule.resourceName (.root "Notes")) ∧
      Text.toLower "Trees" ≠ Text.toLower "Notes" ∧
      dataExchange.Apart treesRegion (.empty (.root "Notes")) := by
  obtain ⟨exportRule, importRule, h, hrule⟩ : ∃ exportRule importRule,
      dataExchange.FollowsNames exportRule importRule ∧
        exportRule = .exporting (some (Environment.empty.withProperty
          Settings.importEnabledProperty "true")) [] "/data" := by
    refine ⟨_, _, ⟨⟨_, _, rfl⟩, ⟨_, _, rfl⟩, rfl, ⟨?_, by rfl⟩, ⟨?_, by rfl⟩⟩, rfl⟩
    · rintro env ⟨⟩
      rfl
    · rintro env ⟨⟩
      rfl
  have htrees : exportRule.resourceName (.root "Trees") = "trees.json" := by
    rw [hrule]
    rfl
  have hnotes : exportRule.resourceName (.root "Notes") = "notes.json" := by
    rw [hrule]
    rfl
  have hne : Text.toLower "Trees" ≠ Text.toLower "Notes" := by
    decide +kernel
  have hfileTrees : IsFileName "trees.json" :=
    ⟨by decide, by decide, by decide, by decide, by decide, by decide⟩
  have hfileNotes : IsFileName "notes.json" :=
    ⟨by decide, by decide, by decide, by decide, by decide, by decide⟩
  rw [← htrees] at hfileTrees
  rw [← hnotes] at hfileNotes
  exact ⟨exportRule, importRule, h, hfileTrees, hfileNotes, hne,
    (apart_of_names h treesRegion (.empty (.root "Notes"))).2 hfileTrees
      hfileNotes hne⟩

/-- Regions with different paths share a location where their names differ only
by case, or not at all; and where a name is no file name, regions with different
locations share a file. -/
theorem exists_shared :
    (∀ pair ∈ [(RegionId.root "Orders", RegionId.root "ORDERS"),
        (.subregion "/Sales" "Orders", .subregion "/Stock" "Orders")],
      pair.1.fullPath ≠ pair.2.fullPath ∧
        (LocationRule.exporting (some .empty) [] "/data").location pair.1 =
          (LocationRule.exporting (some .empty) [] "/data").location pair.2) ∧
    dataExchange.Reaches dataTree (.root "Trees") ["data", "trees.json"] ∧
    dataExchange.Reaches dataTree (.root "./trees") ["data", "trees.json"] := by
  have hrule : (LocationRule.exporting (some .empty) [] "/data").Conventional := by
    refine ⟨?_, by rfl⟩
    rintro env ⟨⟩
    rfl
  have hshared : ∀ r s : RegionId, Text.toLower r.name = Text.toLower s.name →
      (LocationRule.exporting (some .empty) [] "/data").location r =
        (LocationRule.exporting (some .empty) [] "/data").location s := by
    intro r s hname
    obtain ⟨first, second, hr, hs, hiff⟩ := hrule.exists_locations r s
    rw [hr, hs, hiff.2 hname]
  have hcase : Text.toLower "Orders" = Text.toLower "ORDERS" := by
    decide +kernel
  refine ⟨?_, .inl ⟨_, _, _, by rfl, by rfl, by rfl⟩,
    .inl ⟨_, _, _, by rfl, by rfl, by rfl⟩⟩
  rw [List.forall_mem_cons, List.forall_mem_singleton]
  exact ⟨⟨by decide, hshared _ _ hcase⟩, ⟨by decide, hshared _ _ rfl⟩⟩

end Exchange
end RegionSnapshot
