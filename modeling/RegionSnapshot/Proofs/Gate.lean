/-
What the gate lets through.  A region is imported or exported exactly by the
rules of the settings: the flag, the selection of regions and, for an import,
the profiles.
-/
import RegionSnapshot.Gate
import RegionSnapshot.Proofs.Environment

namespace RegionSnapshot
namespace Settings

variable {env : Environment}

theorem importEnabled_iff :
    importEnabled env = true ↔
      ∃ value, env.Finds importEnabledProperty value ∧
        Text.toLower (Text.trim value) ∈ ["1", "true", "yes", "on"] := by
  simp only [importEnabled, ← parseBool?_eq_true_iff]
  exact env.boolOr_eq_not_iff

theorem exportEnabled_iff :
    exportEnabled env = true ↔
      ¬∃ value, env.Finds exportEnabledProperty value ∧
        Text.toLower (Text.trim value) ∈ ["0", "false", "no", "off"] := by
  simp only [exportEnabled, ← parseBool?_eq_false_iff]
  rw [← Bool.not_eq_false]
  exact not_congr env.boolOr_eq_not_iff

theorem importProfileActive_iff :
    importProfileActive env = true ↔
      (∀ profile, ¬env.Lists importProfilesProperty profile) ∨
        ∃ profile, env.Lists importProfilesProperty profile ∧
          env.Effective profile := by
  simp only [importProfileActive, importProfiles, Bool.or_eq_true,
    List.isEmpty_iff, List.eq_nil_iff_forall_not_mem, List.any_eq_true,
    List.contains_iff_mem, Environment.mem_list,
    Environment.mem_effectiveProfiles, and_comm]

end Settings

namespace Gate

variable {ρ : Type}

/-- An import needs an environment, the written flag, a selected region and, if
any profiles are listed, one of these in effect; an export needs an environment
and a selected region, and that the flag does not forbid it. -/
theorem decides_exactly (gate : Gate ρ) (region : ρ) :
    (gate.shouldImport region = true ↔
      ∃ env, gate.environment = some env ∧
        (∃ value, env.Finds Settings.importEnabledProperty value ∧
          Text.toLower (Text.trim value) ∈ ["1", "true", "yes", "on"]) ∧
        gate.selects region = true ∧
        ((∀ profile, ¬env.Lists Settings.importProfilesProperty profile) ∨
          ∃ profile, env.Lists Settings.importProfilesProperty profile ∧
            env.Effective profile)) ∧
    (gate.shouldExport region = true ↔
      ∃ env, gate.environment = some env ∧ gate.selects region = true ∧
        ¬∃ value, env.Finds Settings.exportEnabledProperty value ∧
          Text.toLower (Text.trim value) ∈ ["0", "false", "no", "off"]) := by
  simp only [← Settings.importEnabled_iff, ← Settings.exportEnabled_iff,
    ← Settings.importProfileActive_iff, shouldImport, shouldExport]
  cases gate.environment with
  | none => simp
  | some env =>
      simp [and_assoc, and_comm (a := Settings.exportEnabled env = true)]

/-- A blank value under the name itself hides the one under the relaxed
name. -/
example :
    let env := Environment.empty.withProperty "CACHE_DATA_IMPORT_ENABLED" "On"
    let masked := env.withProperty Settings.importEnabledProperty " "
    ((ofEnvironment (some env)).shouldImport (),
      (ofEnvironment (some masked)).shouldImport ()) = (true, false) := by
  decide

end Gate
end RegionSnapshot
