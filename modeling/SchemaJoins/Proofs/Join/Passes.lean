import SchemaJoins.Proofs.Join.Fitting

/-! # The passes over a join

A kind that is not supported always gives way to a left join, and left joins are
supported by every adapter. So a join is replaced at most once, whichever adapters it is
fitted to and in which order, and neither pass gets in the way of the other: the note of
the replaced kind stands beside the cardinality that decides on the strategy.
-/

namespace SchemaJoins

namespace JoinConfig

variable {c d : JoinConfig}

/-- What the metadata give as a cardinality, if anything, is the name of one. -/
def NamesCardinality (c : JoinConfig) : Prop :=
  ∀ v, c.metadata? "cardinality" = some v → v.isTrue = true →
    ∃ cardinality : Cardinality, v = .text cardinality.name

theorem NamesCardinality.exists_cardinality (h : c.NamesCardinality) :
    ∃ found, c.cardinality = .ok found := by
  unfold cardinality
  cases hv : c.metadata? "cardinality" with
  | none => exact ⟨none, rfl⟩
  | some v =>
    by_cases htrue : v.isTrue = true
    · obtain ⟨cardinality, rfl⟩ := h v hv htrue
      exact ⟨some cardinality, memberOf_some htrue (Cardinality.ofValue_name _)⟩
    · exact ⟨none, if_neg htrue⟩

/-- Nothing but the kind, the strategy and the note of the replaced kind differs. -/
structure KeepsRest (c d : JoinConfig) : Prop where
  name : d.name = c.name
  target : d.target = c.target
  conditions : d.conditions = c.conditions
  through : d.through = c.through
  requiredFields : d.requiredFields = c.requiredFields
  metadata : d.metadata.filter (·.1 != "original_kind") =
    c.metadata.filter (·.1 != "original_kind")

theorem filter_putMetadata (key : String) (v : Value) (metadata : List (String × Value)) :
    (putMetadata key v metadata).filter (·.1 != key) = metadata.filter (·.1 != key) := by
  induction metadata with
  | nil => simp [putMetadata]
  | cons entry rest ih =>
    obtain ⟨k, w⟩ := entry
    by_cases hk : k = key
    · simp [putMetadata, hk]
    · simp [putMetadata, hk, ih]

theorem keepsRest_downgraded (c : JoinConfig) : c.KeepsRest c.downgraded :=
  ⟨rfl, rfl, rfl, rfl, rfl, filter_putMetadata _ _ _⟩

theorem KeepsRest.refl (c : JoinConfig) : c.KeepsRest c := ⟨rfl, rfl, rfl, rfl, rfl, rfl⟩

theorem KeepsRest.with_strategy (h : c.KeepsRest d) (strategy : LoadStrategy) :
    c.KeepsRest { d with strategy } :=
  ⟨h.name, h.target, h.conditions, h.through, h.requiredFields, h.metadata⟩

theorem cardinality_downgraded (c : JoinConfig) : c.downgraded.cardinality = c.cardinality := by
  rw [cardinality, metadata?_downgraded, if_neg (by decide), cardinality]

theorem replacedKind_downgraded (c : JoinConfig) :
    c.downgraded.replacedKind = .ok (some c.kind) := by
  have hv : (Value.text c.kind.name).isTrue = true := by
    cases c.kind <;> rfl
  rw [replacedKind, metadata?_downgraded, if_pos rfl]
  exact memberOf_some hv (JoinKind.ofValue_name _)

end JoinConfig

namespace Optimizer

variable {o o' : Optimizer} {c d : JoinConfig} {os os' : List Optimizer}

section Adapters

theorem adjust_downgraded (o : Optimizer) (c : JoinConfig) :
    o.adjust c.downgraded = c.downgraded := by
  rw [adjust_eq_ite]
  exact if_pos (supports_left _)

theorem adjust_adjust (o : Optimizer) (c : JoinConfig) : o.adjust (o.adjust c) = o.adjust c := by
  rw [o.adjust_eq_ite c]
  split
  · rw [adjust_eq_ite, if_pos ‹_›]
  · exact o.adjust_downgraded c

def adjustAll (os : List Optimizer) (c : JoinConfig) : JoinConfig :=
  os.foldl (fun c o => o.adjust c) c

theorem adjustAll_downgraded (os : List Optimizer) (c : JoinConfig) :
    adjustAll os c.downgraded = c.downgraded := by
  induction os with
  | nil => rfl
  | cons o os ih => rw [adjustAll, List.foldl_cons, adjust_downgraded, ← adjustAll, ih]

theorem adjustAll_of_supports (h : ∀ o ∈ os, o.capabilities.supports c.kind = true) :
    adjustAll os c = c := by
  induction os with
  | nil => rfl
  | cons o os ih =>
    obtain ⟨ho, hos⟩ := List.forall_mem_cons.mp h
    rw [adjustAll, List.foldl_cons, adjust_eq_ite, if_pos ho, ← adjustAll, ih hos]

theorem adjustAll_of_lacks (h : ∃ o ∈ os, o.capabilities.supports c.kind = false) :
    adjustAll os c = c.downgraded := by
  induction os with
  | nil => simp at h
  | cons o os ih =>
    rw [adjustAll, List.foldl_cons, adjust_eq_ite, ← adjustAll]
    by_cases ho : o.capabilities.supports c.kind = true
    · rw [if_pos ho]
      refine ih ?_
      simpa [ho] using h
    · rw [if_neg ho, adjustAll_downgraded]

theorem adjustAll_eq_of_perm (h : os.Perm os') (c : JoinConfig) :
    adjustAll os c = adjustAll os' c := by
  by_cases hall : ∀ o ∈ os, o.capabilities.supports c.kind = true
  · rw [adjustAll_of_supports hall, adjustAll_of_supports fun o ho => hall o (h.mem_iff.mpr ho)]
  · have hlacks : ∃ o ∈ os, o.capabilities.supports c.kind = false := by simpa using hall
    obtain ⟨o, ho, hkind⟩ := hlacks
    rw [adjustAll_of_lacks ⟨o, ho, hkind⟩, adjustAll_of_lacks ⟨o, h.mem_iff.mp ho, hkind⟩]

end Adapters

section Strategies

theorem exists_strategy (o : Optimizer) (found : Option Cardinality) :
    ∃ strategy, ∀ c : JoinConfig, c.cardinality = .ok found →
      o.assign c = .ok { c with strategy } := by
  unfold assign
  cases o.strategy with
  | eager => exact ⟨.eager, fun _ _ => rfl⟩
  | lazy => exact ⟨.lazy, fun _ _ => rfl⟩
  | optimized =>
    refine ⟨strategyFor found, fun c hc => ?_⟩
    dsimp only
    rw [hc]
    rfl

theorem adjust_strategy (o : Optimizer) (c : JoinConfig) (strategy : LoadStrategy) :
    o.adjust { c with strategy } = { o.adjust c with strategy } := by
  rw [adjust_eq_ite, adjust_eq_ite]
  split <;> rfl

theorem cardinality_adjust (o : Optimizer) (c : JoinConfig) :
    (o.adjust c).cardinality = c.cardinality := by
  rw [adjust_eq_ite]
  split
  · rfl
  · exact c.cardinality_downgraded

theorem keepsRest_adjust (o : Optimizer) (c : JoinConfig) : c.KeepsRest (o.adjust c) := by
  rw [adjust_eq_ite]
  split
  · exact .refl c
  · exact c.keepsRest_downgraded

end Strategies

section Laws

structure IsLawful (o o' : Optimizer) (c : JoinConfig) : Prop where
  idempotent : ∃ fitted, o.optimize c = .ok fitted ∧ o.optimize fitted = .ok fitted ∧
    c.KeepsRest fitted
  passes_comm : ∃ fitted, (o.assign c).map o.adjust = .ok fitted ∧
    o.assign (o.adjust c) = .ok fitted
  adapters_comm : o.adjust (o'.adjust c) = o'.adjust (o.adjust c)
  any_order : ∀ os os' : List Optimizer, os.Perm os' → adjustAll os c = adjustAll os' c
  replaced : ∀ os : List Optimizer, (∃ p ∈ os, p.capabilities.supports c.kind = false) →
    (adjustAll os c).kind = .left ∧ (adjustAll os c).replacedKind = .ok (some c.kind) ∧
      (adjustAll os c).strategy = c.strategy ∧ c.KeepsRest (adjustAll os c)
  unchanged : ∀ os : List Optimizer, (∀ p ∈ os, p.capabilities.supports c.kind = true) →
    adjustAll os c = c
  assigned : ∃ strategy, o.assign c = .ok { c with strategy }

theorem exists_optimize (o : Optimizer) (h : c.NamesCardinality) :
    ∃ fitted, o.optimize c = .ok fitted ∧ o.optimize fitted = .ok fitted ∧
      c.KeepsRest fitted := by
  obtain ⟨found, hfound⟩ := h.exists_cardinality
  obtain ⟨strategy, hassign⟩ := o.exists_strategy found
  let fitted : JoinConfig := { o.adjust c with strategy }
  have hfitted : o.adjust { c with strategy } = fitted := o.adjust_strategy c strategy
  have hcardinality : fitted.cardinality = .ok found := (o.cardinality_adjust c).trans hfound
  have hadjust : o.adjust fitted = fitted := by
    rw [← hfitted, adjust_adjust]
  refine ⟨fitted, bind_eq_ok.mpr ⟨_, hassign c hfound, congrArg Except.ok hfitted⟩, ?_,
    (o.keepsRest_adjust c).with_strategy strategy⟩
  exact bind_eq_ok.mpr ⟨_, hassign fitted hcardinality, congrArg Except.ok hadjust⟩

theorem exists_assign_adjust (o : Optimizer) (h : c.NamesCardinality) :
    ∃ fitted, (o.assign c).map o.adjust = .ok fitted ∧ o.assign (o.adjust c) = .ok fitted := by
  obtain ⟨found, hfound⟩ := h.exists_cardinality
  obtain ⟨strategy, hassign⟩ := o.exists_strategy found
  refine ⟨{ o.adjust c with strategy }, ?_, hassign _ ((o.cardinality_adjust c).trans hfound)⟩
  rw [hassign c hfound, ← o.adjust_strategy]
  rfl

theorem isLawful (o o' : Optimizer) (h : c.NamesCardinality) : IsLawful o o' c where
  idempotent := o.exists_optimize h
  passes_comm := o.exists_assign_adjust h
  adapters_comm := adjustAll_eq_of_perm (List.Perm.swap o o' []) c
  any_order := fun _ _ hperm => adjustAll_eq_of_perm hperm c
  replaced := by
    intro os hlacks
    rw [adjustAll_of_lacks hlacks]
    exact ⟨rfl, c.replacedKind_downgraded, rfl, c.keepsRest_downgraded⟩
  unchanged := fun _ => adjustAll_of_supports
  assigned := by
    obtain ⟨found, hfound⟩ := h.exists_cardinality
    obtain ⟨strategy, hassign⟩ := o.exists_strategy found
    exact ⟨strategy, hassign c hfound⟩

/-- Joins that are fitted stay as they are when they are fitted again. Strategy and kind can
be settled in either order, and the adapters that a join is fitted to in any order: what
counts is whether one of them lacks its kind. Nothing else of a join changes. -/
theorem passes_lawful (o o' : Optimizer) {joins : List JoinConfig}
    (h : ∀ c ∈ joins, c.NamesCardinality) :
    (∃ fitted, o.optimizeAll joins = .ok fitted ∧ o.optimizeAll fitted = .ok fitted ∧
      List.Forall₂ JoinConfig.KeepsRest joins fitted) ∧
    ∀ c ∈ joins, IsLawful o o' c := by
  refine ⟨?_, fun c hc => isLawful o o' (h c hc)⟩
  obtain ⟨fitted, hfitted, hall⟩ := exists_mapM_forall₂ fun c hc => o.exists_optimize (h c hc)
  have hagain : ∀ d ∈ fitted, o.optimize d = .ok d := by
    intro d hd
    obtain ⟨_, _, hagain, _⟩ := exists_of_mem_right hall hd
    exact hagain
  exact ⟨fitted, hfitted, mapM_eq_ok.mpr (List.forall₂_same.mpr hagain),
    hall.imp fun _ _ hd => hd.2⟩

/-- A full join that another adapter has been asked about before. -/
def askedBefore : JoinConfig :=
  { name := .text "order"
    kind := .full
    target := .text "Order"
    conditions := [(.text "order_id", .text "id")]
    metadata := [("original_kind", .text "right"), ("cardinality", .text "belongs_to"),
      ("hops", .int 2)] }

def withoutFull : Optimizer :=
  { strategy := .optimized
    capabilities :=
      { adapter := "mysql", version := some "5.7", known := true,
        features := [("right_join", true), ("full_outer_join", false),
          ("recursive_ctes", false)] } }

/-- An adapter that is not known, and so is taken to support everything. -/
def unknownAdapter : Optimizer :=
  { strategy := .lazy
    capabilities := { adapter := "oracle", version := none, known := false, features := [] } }

theorem namesCardinality_askedBefore : ∀ c ∈ [askedBefore], c.NamesCardinality := by
  intro c hc v hv _
  obtain rfl := List.mem_singleton.mp hc
  exact ⟨.direct .belongsTo, (Option.some.inj hv).symm⟩

theorem passes_lawful_askedBefore :
    (∀ c ∈ [askedBefore], c.NamesCardinality) ∧
    (∃ fitted, withoutFull.optimizeAll [askedBefore] = .ok fitted ∧
      withoutFull.optimizeAll fitted = .ok fitted ∧
      List.Forall₂ JoinConfig.KeepsRest [askedBefore] fitted) ∧
    ∀ c ∈ [askedBefore], IsLawful withoutFull unknownAdapter c :=
  ⟨namesCardinality_askedBefore,
    passes_lawful withoutFull unknownAdapter namesCardinality_askedBefore⟩

example : withoutFull.optimize askedBefore = .ok { askedBefore with
    kind := .left
    strategy := .eager
    metadata := [("original_kind", .text "full"), ("cardinality", .text "belongs_to"),
      ("hops", .int 2)] } := by
  rfl

end Laws

end Optimizer

end SchemaJoins
