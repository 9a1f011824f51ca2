import SchemaJoins.Adapter.Capabilities
import SchemaJoins.Proofs.Data.Steps

/-! # Capabilities at any version

Every requirement of a feature table is one that versions can be compared with,
so that the capabilities of every adapter are found at every version, also where
the version text is no version.
-/

namespace SchemaJoins.Adapter

def IsRequirement (requirement : String) : Prop :=
  ∃ r wanted, Requirement.parse? requirement = some r ∧
    Version.parse (String.ofList r.wanted) = .ok wanted

/-- The demand is for the version `wanted` or a later one. -/
def StartsAt (requirement : String) (wanted : Version) : Prop :=
  ∃ cs, Requirement.parse? requirement = some ⟨.atLeast, cs⟩ ∧
    Version.parse (String.ofList cs) = .ok wanted

theorem StartsAt.isRequirement {requirement : String} {wanted : Version}
    (h : StartsAt requirement wanted) : IsRequirement requirement := by
  obtain ⟨cs, hparse, hwanted⟩ := h
  exact ⟨⟨.atLeast, cs⟩, wanted, hparse, hwanted⟩

theorem exists_versionSatisfies {requirement : String} (h : IsRequirement requirement)
    (version : Option String) :
    ∃ met, (versionSatisfies version requirement).result = .ok met := by
  obtain ⟨r, wanted, hr, hwanted⟩ := h
  unfold versionSatisfies
  cases version.filter (!·.isEmpty) with
  | none => exact ⟨false, rfl⟩
  | some version =>
    dsimp only
    rw [hr]
    dsimp only
    cases Version.parse version with
    | error f => exact ⟨false, rfl⟩
    | ok given =>
      rw [hwanted]
      exact ⟨_, rfl⟩

def Support.IsSound : Support → Prop
  | .fixed _ => True
  | .when requirement => IsRequirement requirement

/-- What has a support that depends on the version is there from some version on. -/
def Support.IsGated : Support → Prop
  | .fixed _ => True
  | .when requirement => ∃ wanted, StartsAt requirement wanted

theorem Support.IsGated.isSound {support : Support} (h : support.IsGated) : support.IsSound := by
  cases support with
  | fixed _ => trivial
  | when requirement =>
    obtain ⟨wanted, hwanted⟩ := h
    exact hwanted.isRequirement

namespace Capabilities

theorem isGated_of_featureTable {name : String} {table : List (String × Support)}
    (h : featureTable name = some table) : ∀ entry ∈ table, Support.IsGated entry.2 := by
  have hmysql : ∃ wanted, StartsAt ">= 8.0" wanted := ⟨[8, 0], "8.0".toList, rfl, rfl⟩
  have hsqlite : ∃ wanted, StartsAt ">= 3.39" wanted := ⟨[3, 39], "3.39".toList, rfl, rfl⟩
  unfold featureTable at h
  split at h
  · cases h
    simp [Support.IsGated]
  · cases h
    simp [Support.IsGated, hmysql]
  · cases h
    simp [Support.IsGated, hsqlite]
  · cases h

theorem exists_resolveAll (version : Option String) {table : List (String × Support)}
    (h : ∀ entry ∈ table, Support.IsSound entry.2) :
    ∃ features, (resolveAll version table).result = .ok features := by
  induction table with
  | nil => exact ⟨[], rfl⟩
  | cons entry table ih =>
    obtain ⟨feature, support⟩ := entry
    obtain ⟨hentry, htable⟩ := List.forall_mem_cons.mp h
    obtain ⟨features, hfeatures⟩ := ih htable
    have hsupport : ∃ supported, (resolve version support).result = .ok supported := by
      cases support with
      | fixed supported => exact ⟨supported, rfl⟩
      | when requirement => exact exists_versionSatisfies hentry version
    obtain ⟨supported, hsupported⟩ := hsupport
    exact ⟨_, Logged.result_bind_eq_ok.mpr
      ⟨supported, hsupported, Logged.result_bind_eq_ok.mpr ⟨features, hfeatures, rfl⟩⟩⟩

theorem exists_get (adapter : String) (version : Option String) :
    ∃ c, (get adapter version).result = .ok c := by
  unfold get
  dsimp only
  split
  · exact ⟨_, rfl⟩
  · have hsound := fun entry hentry => (isGated_of_featureTable ‹_› entry hentry).isSound
    obtain ⟨features, hfeatures⟩ := exists_resolveAll version hsound
    exact ⟨_, Logged.result_bind_eq_ok.mpr ⟨features, hfeatures, rfl⟩⟩

end Capabilities

end SchemaJoins.Adapter
