/-
The gate of the exchange: which regions are exported and which imported.
-/
import RegionSnapshot.Settings

namespace RegionSnapshot

/-- Decides which regions are exported and imported; without an environment
none are. -/
structure Gate (ρ : Type) where
  environment : Option Environment
  selects : ρ → Bool

namespace Gate

variable {ρ : Type}

/-- A gate that selects every region. -/
def ofEnvironment (environment : Option Environment) : Gate ρ :=
  ⟨environment, fun _ => true⟩

def shouldExport (gate : Gate ρ) (region : ρ) : Bool :=
  match gate.environment with
  | none => false
  | some env => Settings.exportEnabled env && gate.selects region

def shouldImport (gate : Gate ρ) (region : ρ) : Bool :=
  match gate.environment with
  | none => false
  | some env =>
      Settings.importEnabled env && gate.selects region &&
        Settings.importProfileActive env

end Gate
end RegionSnapshot
