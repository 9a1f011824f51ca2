import SchemaJoins.Validation.Check

/-! # The joins below a mapping

The walk along nested joins looks once at every configuration that is reached.
So whatever is asked of all that it finds is asked of each configuration by
itself: of the join with parameters there, if it is one, and of its shape.
-/

namespace SchemaJoins.Validation

/-- The configuration is reached from a joins mapping along nested joins. -/
inductive Reaches : List (Value × Value) → Value → Prop where
  | entry {joins : List (Value × Value)} {name config : Value} :
      (name, config) ∈ joins → Reaches joins config
  | nested {joins entries nested : List (Value × Value)} {name config : Value} :
      (name, .map entries) ∈ joins → Value.find? entries (.text "joins") = some (.map nested) →
      Reaches nested config → Reaches joins config

def WellShaped (config : Value) : Prop :=
  ∃ entries, config = .map entries ∧
    ∀ v, Value.find? entries (.text "joins") = some v → ∃ nested, v = .map nested

def Collected (joins entries : List (Value × Value)) (parameters : Value) : Prop :=
  Reaches joins (.map entries) ∧ Value.find? entries (.text "parameters") = some parameters

variable {joins entries nested : List (Value × Value)} {config v : Value}

theorem not_reaches_nil : ¬ Reaches [] v := by
  rintro (hm | ⟨hm, _, _⟩)
  · exact List.not_mem_nil hm
  · exact List.not_mem_nil hm

theorem reaches_cons {name : Value} :
    Reaches ((name, config) :: joins) v ↔
      v = config ∨ (∃ entries nested, config = .map entries ∧
        Value.find? entries (.text "joins") = some (.map nested) ∧ Reaches nested v) ∨
      Reaches joins v := by
  constructor
  · intro h
    cases h with
    | entry hm =>
      rcases List.mem_cons.mp hm with he | hm
      · exact .inl (Prod.mk.inj he).2
      · exact .inr (.inr (.entry hm))
    | nested hm hf hr =>
      rcases List.mem_cons.mp hm with he | hm
      · exact .inr (.inl ⟨_, _, (Prod.mk.inj he).2.symm, hf, hr⟩)
      · exact .inr (.inr (.nested hm hf hr))
  · rintro (rfl | ⟨entries, nested, rfl, hf, hr⟩ | h)
    · exact .entry List.mem_cons_self
    · exact .nested List.mem_cons_self hf hr
    · cases h with
      | entry hm => exact .entry (List.mem_cons_of_mem _ hm)
      | nested hm hf hr => exact .nested (List.mem_cons_of_mem _ hm) hf hr

theorem sizeOf_find?_map {key : Value} (h : Value.find? entries key = some (.map nested)) :
    sizeOf nested < sizeOf entries := by
  obtain ⟨⟨k, w⟩, hf, hw⟩ := Option.map_eq_some_iff.mp h
  have hlt := List.sizeOf_lt_of_mem (List.mem_of_find?_eq_some hf)
  simp only at hw
  subst hw
  simp only [Prod.mk.sizeOf_spec, Value.map.sizeOf_spec] at hlt
  omega

def nestedIssue (path : List String) : Findings :=
  .issue .shape
    ("Join '" ++ pathText path ++ "' has invalid nested joins configuration (expected map)")

/-- What is found at one configuration, without its nested joins. -/
def ownFindings (name : String) (path : List String) : Value → Findings
  | .map entries =>
      ⟨(detail? name path entries).toList, []⟩ ++
        match Value.find? entries (.text "joins") with
        | none | some (.map _) => .empty
        | some _ => nestedIssue path
  | _ => .issue .shape ("Join '" ++ pathText path ++ "' configuration is not a map")

theorem Findings.append_empty (f : Findings) : f ++ Findings.empty = f := by
  show Findings.append f .empty = f
  simp [Findings.append, Findings.empty]

theorem Findings.append_def (f f' : Findings) :
    f ++ f' = ⟨f.details ++ f'.details, f.issues ++ f'.issues⟩ := rfl

theorem collectNested_eq (path : List String) (entries : List (Value × Value)) :
    collectNested path entries =
      match Value.find? entries (.text "joins") with
      | none => .empty
      | some (.map nested) => collect path nested
      | some _ => nestedIssue path := by
  induction entries with
  | nil => rfl
  | cons e entries ih =>
    obtain ⟨key, nested⟩ := e
    by_cases hk : Value.sameKey key (.text "joins") = true
    · have hf : Value.find? ((key, nested) :: entries) (.text "joins") = some nested := by
        simp [Value.find?, hk]
      rw [hf]
      cases nested <;> simp [collectNested, nestedIssue, hk]
    · have hf : Value.find? ((key, nested) :: entries) (.text "joins") =
          Value.find? entries (.text "joins") := by
        simp [Value.find?, hk]
      rw [hf, ← ih, collectNested.eq_def]
      simp [hk]

theorem collectJoin_of_nested {name : String} {path : List String}
    (h : Value.find? entries (.text "joins") = some (.map nested)) :
    collectJoin name path (.map entries) =
      ownFindings name path (.map entries) ++ collect path nested := by
  rw [collectJoin, collectNested_eq, ownFindings, h, Findings.append_empty]

theorem collectJoin_of_not_nested {name : String} {path : List String}
    (h : ∀ entries nested, config = .map entries →
      Value.find? entries (.text "joins") ≠ some (.map nested)) :
    collectJoin name path config = ownFindings name path config := by
  cases config with
  | map entries =>
    rw [collectJoin, collectNested_eq, ownFindings]
    cases hf : Value.find? entries (.text "joins") with
    | none => rfl
    | some v =>
      cases v with
      | map nested => exact absurd hf (h entries nested rfl)
      | _ => rfl
  | _ => rfl

section Walk

variable {Clean : Findings → Prop} {Good : Value → Prop} (hempty : Clean .empty)
  (happend : ∀ f f', Clean (f ++ f') ↔ Clean f ∧ Clean f')
  (hown : ∀ name path config, Clean (ownFindings name path config) ↔ Good config)

include happend hown in
theorem collectJoin_iff {name : String} {path : List String}
    (hbelow : ∀ entries nested, config = .map entries →
      Value.find? entries (.text "joins") = some (.map nested) →
      (Clean (collect path nested) ↔ ∀ v, Reaches nested v → Good v)) :
    Clean (collectJoin name path config) ↔ Good config ∧ ∀ entries nested v,
      config = .map entries → Value.find? entries (.text "joins") = some (.map nested) →
      Reaches nested v → Good v := by
  by_cases hm : ∃ entries nested, config = .map entries ∧
      Value.find? entries (.text "joins") = some (.map nested)
  · obtain ⟨entries, nested, rfl, hf⟩ := hm
    rw [collectJoin_of_nested hf, happend, hown, hbelow entries nested rfl hf]
    refine and_congr_right' ⟨fun h entries' nested' v he hf' hr => ?_, fun h v => h _ _ v rfl hf⟩
    cases he
    cases hf.symm.trans hf'
    exact h v hr
  · rw [collectJoin_of_not_nested fun entries nested he hf => hm ⟨entries, nested, he, hf⟩, hown]
    exact (and_iff_left fun entries nested v he hf _ => absurd ⟨entries, nested, he, hf⟩ hm).symm

variable (Clean Good) in
include hempty happend hown in
/-- What is decided piece by piece holds of the whole walk exactly when it holds
at every configuration that is reached. -/
theorem collect_iff (path : List String) : (joins : List (Value × Value)) →
    (Clean (collect path joins) ↔ ∀ v, Reaches joins v → Good v)
  | [] => by
    rw [collect]
    exact iff_of_true hempty fun v hv => absurd hv not_reaches_nil
  | (name, config) :: rest => by
    -- the nested mapping is a part of the configuration, so the recursion reaches it too
    have hbelow : ∀ entries nested, config = .map entries →
        Value.find? entries (.text "joins") = some (.map nested) →
        (Clean (collect (path ++ [joinName name]) nested) ↔ ∀ v, Reaches nested v → Good v) :=
      fun entries nested he hf =>
        have := sizeOf_find?_map hf
        collect_iff _ nested
    rw [collect, happend, collect_iff path rest, collectJoin_iff happend hown hbelow]
    constructor
    · rintro ⟨⟨hgood, hdeeper⟩, hrest⟩ v hv
      rcases reaches_cons.mp hv with rfl | ⟨entries, nested, he, hf, hr⟩ | hr
      · exact hgood
      · exact hdeeper entries nested v he hf hr
      · exact hrest v hr
    · intro h
      refine ⟨⟨h config (reaches_cons.mpr (.inl rfl)), fun entries nested v he hf hr => ?_⟩,
        fun v hr => h v (reaches_cons.mpr (.inr (.inr hr)))⟩
      exact h v (reaches_cons.mpr (.inr (.inl ⟨entries, nested, he, hf, hr⟩)))
  termination_by joins => sizeOf joins
  decreasing_by
    · subst he
      simp only [List.cons.sizeOf_spec, Prod.mk.sizeOf_spec, Value.map.sizeOf_spec]
      omega
    · simp only [List.cons.sizeOf_spec]
      omega

end Walk

theorem issues_ownFindings (name : String) (path : List String) (config : Value) :
    (ownFindings name path config).issues = [] ↔ WellShaped config := by
  unfold ownFindings WellShaped
  split
  · rename_i entries
    simp only [Findings.append_def, List.nil_append, Value.map.injEq, exists_eq_left']
    cases hf : Value.find? entries (.text "joins") with
    | none => simp [Findings.empty]
    | some v => cases v <;> simp [Findings.empty, nestedIssue, Findings.issue]
  · rename_i hm
    simp only [Findings.issue, List.cons_ne_nil, false_iff]
    rintro ⟨entries, he, _⟩
    exact hm entries he

theorem issues_collect_eq_nil (path : List String) :
    (collect path joins).issues = [] ↔ ∀ v, Reaches joins v → WellShaped v :=
  collect_iff (fun f => f.issues = []) _ rfl (fun _ _ => List.append_eq_nil_iff)
    issues_ownFindings path joins

theorem category_ownFindings (name : String) (path : List String) (config : Value) :
    ∀ i ∈ (ownFindings name path config).issues, i.category = .shape := by
  unfold ownFindings
  split
  · split <;> simp [Findings.append_def, Findings.empty, nestedIssue, Findings.issue]
  · simp [Findings.issue]

theorem category_of_mem_collect {path : List String} {i : Issue}
    (hi : i ∈ (collect path joins).issues) : i.category = .shape := by
  have hall := collect_iff (fun f => ∀ i ∈ f.issues, i.category = .shape) (fun _ => True)
    (by simp [Findings.empty]) (fun _ _ => List.forall_mem_append)
    (fun name path config => iff_true_intro (category_ownFindings name path config)) path joins
  exact hall.mpr (fun _ _ => trivial) i hi

theorem details_ownFindings {B : Value → Value → Value → Prop} (name : String)
    (path : List String) (config : Value) :
    (∀ d ∈ (ownFindings name path config).details, B d.parameters d.fields d.condition) ↔
      ∀ entries parameters, config = .map entries →
        Value.find? entries (.text "parameters") = some parameters →
        B parameters ((Value.find? entries (.text "fields")).getD (.map []))
          ((Value.find? entries (.text "join_condition")).getD .null) := by
  unfold ownFindings
  split
  · rename_i entries
    have hdetails : ∀ f : Findings, f.details = [] →
        (⟨(detail? name path entries).toList, []⟩ ++ f : Findings).details =
          (detail? name path entries).toList := by
      intro f hf
      simp [Findings.append_def, hf]
    rw [hdetails _ (by split <;> rfl)]
    constructor
    · intro h _ parameters he hp
      cases he
      have hd : detail? name path entries = some ⟨name, pathText path, parameters,
          (Value.find? entries (.text "fields")).getD (.map []),
          (Value.find? entries (.text "join_condition")).getD .null⟩ := by
        rw [detail?, hp]
        rfl
      exact h _ (Option.mem_toList.mpr hd)
    · intro h d hd
      obtain ⟨parameters, hp, rfl⟩ := Option.map_eq_some_iff.mp (Option.mem_toList.mp hd)
      exact h entries parameters rfl hp
  · rename_i hm
    refine iff_of_true (fun d hd => absurd hd List.not_mem_nil) fun entries _ he => ?_
    exact absurd he (hm entries)

theorem forall_details_collect {B : Value → Value → Value → Prop} (path : List String) :
    (∀ d ∈ (collect path joins).details, B d.parameters d.fields d.condition) ↔
      ∀ entries parameters, Collected joins entries parameters →
        B parameters ((Value.find? entries (.text "fields")).getD (.map []))
          ((Value.find? entries (.text "join_condition")).getD .null) := by
  rw [collect_iff (fun f => ∀ d ∈ f.details, B d.parameters d.fields d.condition) _
    (fun d hd => absurd hd List.not_mem_nil) (fun _ _ => List.forall_mem_append)
    details_ownFindings]
  constructor
  · exact fun h entries parameters hm => h _ hm.1 entries parameters rfl hm.2
  · rintro h _ hr entries parameters rfl hp
    exact h entries parameters ⟨hr, hp⟩

end SchemaJoins.Validation
