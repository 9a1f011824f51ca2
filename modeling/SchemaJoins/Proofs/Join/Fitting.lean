import SchemaJoins.Join.Build
import SchemaJoins.Join.Optimize
import SchemaJoins.Proofs.Data.Steps

/-! # Fitting a join

A join that is built names the cardinality of its relationship and no replaced
kind. Fitting it to an adapter changes its strategy, and its kind only if the
adapter cannot execute it; the metadata then name the kind that was replaced.
-/

namespace SchemaJoins

open Adapter Schema

theorem Cardinality.ofValue_name (c : Cardinality) : ofValue (.text c.name) = .ok c := by
  cases c with
  | direct kind => cases kind <;> rfl
  | manyToMany => rfl
  | selfReference => rfl

theorem JoinKind.ofValue_name (kind : JoinKind) : ofValue (.text kind.name) = .ok kind := by
  cases kind <;> rfl

theorem supports_left (capabilities : Capabilities) : capabilities.supports .left = true := rfl

namespace JoinConfig

variable {α : Type} {g : Graph} {r : Relationship} {override : Value} {base c : JoinConfig}

theorem find?_putMetadata (key other : String) (v : Value) (metadata : List (String × Value)) :
    ((putMetadata key v metadata).find? (·.1 == other)).map (·.2) =
      if key = other then some v else (metadata.find? (·.1 == other)).map (·.2) := by
  induction metadata with
  | nil => by_cases h : key = other <;> simp [putMetadata, h]
  | cons entry rest ih =>
    obtain ⟨k, w⟩ := entry
    by_cases hk : k = key
    · by_cases h : key = other <;> simp [putMetadata, hk, h]
    · by_cases h : k = other
      · have hne : key ≠ other := fun he => hk (h.trans he.symm)
        simp [putMetadata, h, hne, Ne.symm hne]
      · have hb : (k == other) = false := beq_eq_false_iff_ne.mpr h
        simp only [putMetadata, beq_iff_eq, hk, if_false, List.find?_cons, hb, ih]

theorem memberOf_some {ofValue : Value → Except Fault α} {v : Value} {a : α}
    (hv : v.isTrue = true) (ha : ofValue v = .ok a) : memberOf ofValue (some v) = .ok (some a) := by
  rw [memberOf, if_pos hv, ha]
  rfl

def downgraded (c : JoinConfig) : JoinConfig :=
  { c with
    kind := .left
    metadata := putMetadata "original_kind" (.text c.kind.name) c.metadata }

theorem metadata?_downgraded (key : String) : c.downgraded.metadata? key =
    if "original_kind" = key then some (.text c.kind.name) else c.metadata? key :=
  find?_putMetadata _ _ _ _

structure IsUnfitted (r : Relationship) (c : JoinConfig) : Prop where
  name : c.name = r.name
  cardinality : c.metadata? "cardinality" = some (.text r.effectiveCardinality.name)
  original_kind : c.metadata? "original_kind" = none

theorem of_shaped (h : shaped g r base = .ok c) :
    c.name = base.name ∧ c.kind = base.kind ∧ c.target = base.target ∧
      ∃ added, c.metadata = base.metadata ++ added ∧
        added.find? (·.1 == "original_kind") = none := by
  unfold shaped at h
  split at h
  · cases h
    exact ⟨rfl, rfl, rfl, [], (List.append_nil _).symm, rfl⟩
  · cases h
    exact ⟨rfl, rfl, rfl, _, rfl, rfl⟩
  · obtain ⟨entity, _, h⟩ := bind_eq_ok.mp h
    cases h
    exact ⟨rfl, rfl, rfl, _, rfl, rfl⟩

theorem isUnfitted_of_shaped (hbase : IsUnfitted r base) (h : shaped g r base = .ok c) :
    IsUnfitted r c := by
  obtain ⟨hname, -, -, added, hadded, hnone⟩ := of_shaped h
  have hlookup (key : String) : c.metadata? key =
      (base.metadata? key).or ((added.find? (·.1 == key)).map (·.2)) := by
    rw [metadata?, hadded, List.find?_append, Option.map_or, metadata?]
  refine ⟨hname.trans hbase.name, ?_, ?_⟩
  · rw [hlookup, hbase.cardinality, Option.some_or]
  · rw [hlookup, hbase.original_kind, hnone]
    rfl

theorem isUnfitted_of_build (h : (build g r override).result = .ok c) : IsUnfitted r c := by
  obtain ⟨_, _, h⟩ := Logged.result_bind_eq_ok.mp h
  obtain ⟨_, _, h⟩ := Logged.result_bind_eq_ok.mp h
  exact isUnfitted_of_shaped ⟨rfl, rfl, rfl⟩ h

theorem cardinality_of_metadata? {cardinality : Cardinality}
    (h : c.metadata? "cardinality" = some (.text cardinality.name)) :
    c.cardinality = .ok (some cardinality) := by
  have hv : (Value.text cardinality.name).isTrue = true := by
    cases cardinality with
    | direct kind => cases kind <;> rfl
    | manyToMany => rfl
    | selfReference => rfl
  unfold JoinConfig.cardinality
  rw [h]
  exact memberOf_some hv (Cardinality.ofValue_name _)

theorem IsUnfitted.cardinality_eq (h : IsUnfitted r c) :
    c.cardinality = .ok (some r.effectiveCardinality) := cardinality_of_metadata? h.cardinality

end JoinConfig

/-- The join of a relationship, as it was built and as it was fitted to an adapter. -/
structure Fitting where
  relationship : Relationship
  built : JoinConfig
  fitted : JoinConfig

namespace Fitting

variable {f : Fitting} {mode : LoadStrategy} {capabilities : Capabilities}

def IsDowngraded (f : Fitting) : Prop := f.fitted.kind ≠ f.built.kind

instance : DecidablePred IsDowngraded := fun f => inferInstanceAs (Decidable (f.fitted.kind ≠ _))

structure IsFit (mode : LoadStrategy) (capabilities : Capabilities) (f : Fitting) : Prop where
  supported : capabilities.supports f.fitted.kind = true
  isDowngraded_iff : f.IsDowngraded ↔ capabilities.supports f.built.kind = false
  left : f.IsDowngraded → f.fitted.kind = .left
  original_kind : f.fitted.metadata? "original_kind" =
    if f.IsDowngraded then some (.text f.built.kind.name) else none
  strategy_ne : f.fitted.strategy ≠ .optimized
  fixed : mode ≠ .optimized → f.fitted.strategy = mode
  chosen : mode = .optimized →
    (f.fitted.strategy = .eager ↔ f.relationship.effectiveCardinality = .direct .belongsTo)
  metadata : ∀ key ≠ "original_kind", f.fitted.metadata? key = f.built.metadata? key
  rest : { f.fitted with
    kind := f.built.kind, strategy := f.built.strategy, metadata := f.built.metadata } = f.built

theorem replacedKind_of_isFit (h : f.IsFit mode capabilities) : f.fitted.replacedKind =
    .ok (if f.IsDowngraded then some f.built.kind else none) := by
  rw [JoinConfig.replacedKind, h.original_kind]
  by_cases hd : f.IsDowngraded
  · have hv : (Value.text f.built.kind.name).isTrue = true := by
      cases f.built.kind <;> rfl
    rw [if_pos hd, if_pos hd, JoinConfig.memberOf_some hv (JoinKind.ofValue_name _)]
  · rw [if_neg hd, if_neg hd]
    rfl

theorem not_isDowngraded_of_postgres {version : Option String}
    (h : (Capabilities.get "postgres" version).result = .ok capabilities)
    (hf : f.IsFit mode capabilities) : ¬ f.IsDowngraded := by
  have hname : Text.lower "postgres" = "postgres" := by decide +kernel
  unfold Capabilities.get at h
  rw [hname] at h
  cases h
  rw [hf.isDowngraded_iff]
  cases f.built.kind <;> nofun

end Fitting

namespace Optimizer

variable {o : Optimizer} {r : Relationship} {f : Fitting} {c : JoinConfig}

theorem strategyFor_eq_eager_iff {cardinality : Cardinality} :
    strategyFor (some cardinality) = .eager ↔ cardinality = .direct .belongsTo := by
  cases cardinality with
  | direct kind => cases kind <;> simp [strategyFor]
  | manyToMany => simp [strategyFor]
  | selfReference => simp [strategyFor]

theorem strategyFor_ne_optimized (cardinality : Option Cardinality) :
    strategyFor cardinality ≠ .optimized := by
  unfold strategyFor
  split <;> nofun

def assigned (mode : LoadStrategy) (cardinality : Cardinality) : LoadStrategy :=
  match mode with
  | .optimized => strategyFor (some cardinality)
  | fixed => fixed

theorem assign_eq (h : c.IsUnfitted r) :
    o.assign c = .ok { c with strategy := assigned o.strategy r.effectiveCardinality } := by
  unfold assign assigned
  cases o.strategy with
  | eager => rfl
  | lazy => rfl
  | optimized =>
    dsimp only
    rw [h.cardinality_eq]
    rfl

theorem assigned_ne_optimized (mode : LoadStrategy) (cardinality : Cardinality) :
    assigned mode cardinality ≠ .optimized := by
  cases mode with
  | eager => nofun
  | lazy => nofun
  | optimized => exact strategyFor_ne_optimized _

theorem assigned_of_ne_optimized {mode : LoadStrategy} (h : mode ≠ .optimized)
    (cardinality : Cardinality) : assigned mode cardinality = mode := by
  cases mode with
  | eager => rfl
  | lazy => rfl
  | optimized => exact absurd rfl h

theorem adjust_eq_ite (o : Optimizer) (c : JoinConfig) :
    o.adjust c = if o.capabilities.supports c.kind = true then c else c.downgraded := by
  unfold adjust
  split
  · rfl
  · rw [Capabilities.fallbackFor, if_neg ‹_›]
    rfl

theorem metadata?_adjust (key : String) : (o.adjust c).metadata? key =
    if o.capabilities.supports c.kind = false ∧ "original_kind" = key then
      some (.text c.kind.name) else c.metadata? key := by
  rw [adjust_eq_ite]
  by_cases h : o.capabilities.supports c.kind = true
  · simp [h]
  · simp [h, JoinConfig.metadata?_downgraded]

theorem kind_adjust : (o.adjust c).kind =
    if o.capabilities.supports c.kind = true then c.kind else .left := by
  rw [adjust_eq_ite]
  split <;> rfl

theorem kind_adjust_eq_iff :
    (o.adjust c).kind = c.kind ↔ o.capabilities.supports c.kind = true := by
  rw [kind_adjust]
  by_cases hs : o.capabilities.supports c.kind = true
  · simp [hs]
  · -- every adapter supports left joins, so that the kind was another one
    have hne : JoinKind.left ≠ c.kind := by
      rintro hl
      rw [← hl] at hs
      exact hs (supports_left _)
    simp [hs, hne]

theorem adjust_eq : o.adjust c =
    { c with kind := (o.adjust c).kind, metadata := (o.adjust c).metadata } := by
  rw [adjust_eq_ite]
  split <;> rfl

theorem isDowngraded_iff (h : f.fitted.kind = (o.adjust f.built).kind) :
    f.IsDowngraded ↔ o.capabilities.supports f.built.kind = false := by
  rw [Fitting.IsDowngraded, h, ne_eq, kind_adjust_eq_iff, Bool.not_eq_true]

theorem isFit_of_optimize (hbuilt : f.built.IsUnfitted f.relationship)
    (h : o.optimize f.built = .ok f.fitted) : f.IsFit o.strategy o.capabilities := by
  obtain ⟨c, hc, h⟩ := bind_eq_ok.mp h
  rw [assign_eq hbuilt] at hc
  obtain rfl := Except.ok.inj hc
  have hfitted := (Except.ok.inj h).symm
  have hkind : f.fitted.kind = (o.adjust f.built).kind := by
    rw [hfitted, kind_adjust, kind_adjust]
  have hstrategy : f.fitted.strategy =
      assigned o.strategy f.relationship.effectiveCardinality := by
    rw [hfitted, adjust_eq]
  have hmetadata (key : String) : f.fitted.metadata? key = (o.adjust f.built).metadata? key := by
    rw [hfitted, metadata?_adjust, metadata?_adjust]
    rfl
  have hiff := isDowngraded_iff hkind
  refine ⟨?_, hiff, ?_, ?_, ?_, ?_, ?_, ?_, ?_⟩
  · rw [hkind, kind_adjust]
    split
    · assumption
    · exact supports_left _
  · intro hd
    rw [hkind, kind_adjust, hiff.mp hd]
    rfl
  · rw [hmetadata, metadata?_adjust, hbuilt.original_kind]
    simp only [hiff, and_true]
  · rw [hstrategy]
    exact assigned_ne_optimized _ _
  · intro hmode
    rw [hstrategy, assigned_of_ne_optimized hmode]
  · intro hmode
    rw [hstrategy, hmode]
    exact strategyFor_eq_eager_iff
  · intro key hkey
    rw [hmetadata, metadata?_adjust, if_neg fun h => hkey h.2.symm]
  · rw [hfitted, adjust_eq]

end Optimizer

end SchemaJoins
