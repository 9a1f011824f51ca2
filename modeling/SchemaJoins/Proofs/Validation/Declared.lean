import SchemaJoins.Proofs.Data.Entries
import SchemaJoins.Proofs.Data.Steps
import SchemaJoins.Proofs.Validation.Rules

/-! # Declaring the joins that hold

A join that breaks no rule can be declared: its parameters and fields can be
read, their names are distinct, and the condition mentions no others.
-/

namespace SchemaJoins.Validation

variable {v : Value} {items : List Value} {d : Detail}

theorem exists_buildParameter {name : String} (h : Declares v name) :
    ∃ p, buildParameter v = .ok p ∧ p.name = name := by
  obtain ⟨entries, rfl, ⟨hname, _⟩, ⟨t, _, ht⟩, _⟩ := h
  refine ⟨⟨name, t, ((Value.find? entries (.text "required")).getD (.bool false)).isTrue,
    (Value.find? entries (.text "default")).getD .null⟩, ?_, rfl⟩
  rw [buildParameter, Value.item_map_eq_ok.mpr hname, Value.item_map_eq_ok.mpr ht]
  rfl

theorem exists_mapM_buildParameter {names : List String}
    (h : List.Forall₂ Declares items names) :
    ∃ ps, items.mapM buildParameter = .ok ps ∧ ps.map (·.name) = names := by
  induction h with
  | nil => exact ⟨[], rfl, rfl⟩
  | cons hv _ ih =>
    obtain ⟨p, hp, rfl⟩ := exists_buildParameter hv
    obtain ⟨ps, hps, rfl⟩ := ih
    refine ⟨p :: ps, ?_, rfl⟩
    rw [List.mapM_cons, hp, hps]
    rfl

theorem exists_buildFields {fields : List (Value × Value)}
    (h : ∀ e ∈ fields, ∃ config, e.2 = .map config ∧ HasType ParameterType.fieldNames config) :
    ∃ built, buildFields fields = .ok built := by
  refine exists_foldlM (fun built e he => ?_) []
  obtain ⟨config, hc, t, _, ht⟩ := h e he
  obtain ⟨name, _⟩ := e
  cases hc
  dsimp only
  rw [Value.item_map_eq_ok.mpr ht]
  exact ⟨_, rfl⟩

theorem mem_of_declares {names : List String} {entries : List (Value × Value)} {name : String}
    (h : List.Forall₂ Declares items names) (hm : .map entries ∈ items)
    (hname : Value.find? entries (.text "name") = some (.text name)) : name ∈ names := by
  induction h with
  | nil => exact absurd hm List.not_mem_nil
  | cons hv _ ih =>
    rcases List.mem_cons.mp hm with rfl | hm
    · obtain ⟨_, he, ⟨hname', _⟩, _⟩ := hv
      cases he
      cases hname.symm.trans hname'
      exact List.mem_cons_self
    · exact List.mem_cons_of_mem _ (ih hm)

theorem check_eq_ok {decl : Declaration} (hnodup : decl.parameterNames.Nodup)
    (hnames : ∀ p ∈ decl.placeholders, p ∈ decl.parameterNames) :
    Declaration.check decl = .ok decl := by
  have hunknown : decl.placeholders.filter (fun p => !decl.parameterNames.contains p) = [] := by
    rw [List.filter_eq_nil_iff]
    intro p hp
    simpa using hnames p hp
  rw [Declaration.check]
  simp only [repeatedTexts_eq_nil.mpr hnodup, hunknown]
  rfl

theorem exists_declare (hp : ParametersHold d.parameters) (hf : FieldsHold d.fields)
    (hc : ConditionHolds d.parameters d.condition) : ∃ decl, declare d = .ok decl := by
  obtain ⟨items, names, hs, hnames, hnodup⟩ := hp
  obtain ⟨ps, hps, rfl⟩ := exists_mapM_buildParameter hnames
  obtain ⟨fields, hfields, _, htypes⟩ := hf
  obtain ⟨built, hbuilt⟩ := exists_buildFields htypes
  -- the condition is still a match on `d.condition` when the check is reached
  have hchecked : ∀ condition : Option String,
      (∀ p ∈ Declaration.placeholdersOf condition, p ∈ ps.map (·.name)) →
      Declaration.check ⟨d.name, d.path, ps, built, condition⟩ =
        .ok ⟨d.name, d.path, ps, built, condition⟩ := fun _ h => check_eq_ok hnodup h
  unfold declare
  rw [asSequence?_eq_some.mpr hs, hfields]
  dsimp only [Option.getD_some]
  rw [hps, Value.asMap]
  change ∃ decl, (buildFields fields).bind _ = .ok decl
  rw [hbuilt]
  refine ⟨_, hchecked _ fun p hp => ?_⟩
  rcases hc with hnull | ⟨s, htext, hmem⟩
  · rw [hnull] at hp
    exact absurd hp List.not_mem_nil
  · rw [htext] at hp
    unfold Declaration.placeholdersOf at hp
    dsimp only at hp
    split at hp
    · exact absurd hp List.not_mem_nil
    · obtain ⟨items', entries, hs', hm, hname⟩ := hmem p hp
      obtain rfl := hs.unique hs'
      exact mem_of_declares hnames hm hname

end SchemaJoins.Validation
