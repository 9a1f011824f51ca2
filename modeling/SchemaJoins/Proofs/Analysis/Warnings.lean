import SchemaJoins.Analysis.Run
import SchemaJoins.Proofs.Data.Steps
import SchemaJoins.Proofs.Text.Starts

/-! # How warnings start

The warnings of an analysis are of five kinds, and those of each kind start with
words of their own. The warnings about cycles come first, one for each cycle.
-/

namespace SchemaJoins

open Schema

namespace Analyzer

variable {z : Analyzer} {e : Entity} {w : String}

theorem starts_cycleWarning {cycle : List Value} (h : cycleWarning cycle = .ok w) :
    Starts "Circular dependency detected: " w := by
  obtain ⟨names, _, h⟩ := bind_eq_ok.mp h
  cases h
  exact starts_append _ _

theorem starts_hierarchyWarnings {hierarchies : List Hierarchy}
    (h : w ∈ hierarchyWarnings e hierarchies) : Starts "Multiple " w := by
  unfold hierarchyWarnings at h
  split at h
  · obtain rfl := List.mem_singleton.mp h
    rw [String.append_assoc]
    exact starts_append "Multiple " ("hierarchical relationships detected on " ++ _)
  · cases h

theorem starts_recursionWarnings {hierarchies : List Hierarchy}
    (h : w ∈ recursionWarnings z e hierarchies) : Starts "Adapter " w := by
  unfold recursionWarnings at h
  dsimp only at h
  split at h
  · cases h
  · obtain ⟨_, _, rfl⟩ := List.mem_map.mp h
    simp only [String.append_assoc]
    exact starts_append _ _

theorem starts_junctionWarning? {r : Relationship} (h : junctionWarning? z e r = .ok (some w)) :
    Starts "Junction entity '" w := by
  unfold junctionWarning? at h
  split at h
  · cases h
  · obtain ⟨found, _, h⟩ := bind_eq_ok.mp h
    split at h
    · cases h
    · cases h
      simp only [String.append_assoc]
      exact starts_append _ _

theorem starts_kindWarning? {c : JoinConfig} (h : kindWarning? z e c = .ok (some w)) :
    Starts "Join " w := by
  obtain ⟨found, _, h⟩ := bind_eq_ok.mp h
  obtain ⟨kind, _, rfl⟩ := Option.map_eq_some_iff.mp (Except.ok.inj h)
  simp only [String.append_assoc]
  exact starts_append _ _

end Analyzer

end SchemaJoins
