import SchemaJoins.Command.Analyze
import SchemaJoins.Proofs.Command.Steps
import SchemaJoins.Proofs.Settings.Faults

/-! # Settings files at the command line

A file that is refused with a fault of the settings is told to the user in red. A
file of a shape that escapes ends the command with a fault that nothing handles.
-/

namespace SchemaJoins.Command

namespace Analyze

variable {α : Type} {r : Request} {s : Session} {v : Value} {f : Fault}

/-- The settings file that is named or found holds this value. -/
def HoldsSettings (files : Files.Tree) (r : Request) (v : Value) : Prop :=
  ∃ p, Settings.find files r.settings = .ok (some p) ∧ Settings.readDocument files p = .ok v

def loadBoth (files : Files.Tree) (r : Request) : Logged (Settings × Schema.Graph) := do
  return (← loadSettings files r, ← Schema.Export.loadFile files r.schema)

theorem loadBoth_of_error {files : Files.Tree} (hv : HoldsSettings files r v)
    (hf : (Settings.ofFile v).result = .error f) : (loadBoth files r).result = .error f := by
  obtain ⟨p, hfind, hread⟩ := hv
  have hload : Settings.load files r.settings = Settings.ofFile v := by
    unfold Settings.load
    rw [hfind]
    change (liftM (Settings.readDocument files p) : Logged Value) >>= Settings.ofFile = _
    rw [hread]
    rfl
  refine Logged.result_bind_of_error (Logged.result_bind_of_error ?_ _) _
  rw [hload, hf]

theorem load_of_error (hv : HoldsSettings s.files r v)
    (hf : (Settings.ofFile v).result = .error f) :
    ∃ written, (load r).at s =
      (Step.report f).at { s with warnings := s.warnings ++ written } := by
  refine ⟨(loadBoth s.files r).warnings, ?_⟩
  have hfiles : Step.files.at s = (.ok s.files, s) := rfl
  have hboth := Step.at_guarded (loadBoth s.files r) s
  rw [loadBoth_of_error hv hf] at hboth
  exact (Step.at_bind hfiles _).trans (Step.at_bind hboth _)

theorem report_settings (why : SettingsFault) : (Step.report (.settings why) : Step α) =
    Step.printError (Console.escape (Fault.settings why).message) := by
  rw [Step.report]

theorem exists_fault_of_fileEscapes (hv : HoldsSettings s.files r v)
    (hescapes : Settings.FileEscapes v) : ∃ f, ((load r).at s).1 = .error (.fault f) := by
  have hother : Settings.SparesSettings fun f =>
      (∀ why, f ≠ .settings why) ∧ ∀ why, f ≠ .schema why := by
    constructor
    · exact fun why h => h.1 why rfl
    all_goals simp
  obtain ⟨f, hf, hsettings, hschema⟩ := (Settings.stopsWith_ofFile hother).mpr hescapes
  obtain ⟨written, hload⟩ := load_of_error hv hf
  have hreport : (Step.report f : Step (Settings × Schema.Graph)) = Step.fail f := by
    unfold Step.report
    split
    · exact absurd rfl (hsettings _)
    · exact absurd rfl (hschema _)
    · rfl
  exact ⟨f, by rw [hload, hreport]; rfl⟩

/-- Reading a settings file gives proper settings or a fault that the command tells,
except for the shapes that escape; those end the command. -/
theorem settings_read_or_told_iff (v : Value) :
    (((∃ settings, (Settings.ofFile v).result = .ok settings ∧ settings.IsProper) ∨
      ∃ why, (Settings.ofFile v).result = .error (.settings why)) ↔ ¬ Settings.FileEscapes v) ∧
    ∀ (r : Request) (s : Session), HoldsSettings s.files r v →
      (∀ why, (Settings.ofFile v).result = .error (.settings why) → ∃ written, (load r).at s =
        (Step.printError (Console.escape (Fault.settings why).message)).at
          { s with warnings := s.warnings ++ written }) ∧
      (Settings.FileEscapes v → ∃ f, ((load r).at s).1 = .error (.fault f)) := by
  refine ⟨Settings.proper_or_refused_iff v, fun r s hv => ?_⟩
  refine ⟨fun why hwhy => ?_, exists_fault_of_fileEscapes hv⟩
  obtain ⟨written, hload⟩ := load_of_error hv hwhy
  rw [report_settings] at hload
  exact ⟨written, hload⟩

/-- A version written beside the adapter, where a mapping that holds it belongs. -/
def bareVersion : List (Value × Value) :=
  [(.text "defaults", .map []), (.text "adapters", .map [(.text "postgres", .text "14.0")])]

theorem fileEscapes_bareVersion : Settings.FileEscapes (.map bareVersion) := by
  refine ⟨bareVersion, [], rfl, .inl rfl, .entry (fun _ => ⟨_, rfl⟩) ⟨rfl, ?_, ?_⟩⟩
  · decide +kernel
  · intro own h
    cases h

theorem not_read_or_told_bareVersion :
    ¬ ∀ v, (∃ settings, (Settings.ofFile v).result = .ok settings ∧ settings.IsProper) ∨
      ∃ why, (Settings.ofFile v).result = .error (.settings why) := fun h =>
  (Settings.proper_or_refused_iff _).mp (h (.map bareVersion)) fileEscapes_bareVersion

end Analyze

end SchemaJoins.Command
