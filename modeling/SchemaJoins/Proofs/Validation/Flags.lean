import SchemaJoins.Proofs.Validation.Declarations

/-! # What the flags of a report say

Each of the four flags holds exactly when its rule holds at every join that is
reached, and a report is valid exactly when all four do.
-/

namespace SchemaJoins.Validation

variable {r : Report} {c : Category} {d : Detail}

namespace Report

theorem holds_iff : r.holds c = true ↔ ∀ i ∈ r.issues, i.category ≠ c := by
  simp [holds]

theorem isValid_iff : r.isValid = true ↔ ∀ c, r.holds c = true := by
  rw [isValid, List.all_eq_true]
  exact ⟨fun h c => h c (by cases c <;> decide), fun h c _ => h c⟩

theorem isValid_iff_issues : r.isValid = true ↔ r.issues = [] := by
  rw [isValid_iff]
  simp only [holds_iff]
  constructor
  · intro h
    refine List.eq_nil_iff_forall_not_mem.mpr fun i hi => ?_
    exact h i.category i hi rfl
  · intro h c i hi
    rw [h] at hi
    exact absurd hi List.not_mem_nil

end Report

theorem forall_category_ne {issues : List Issue} {own : Category}
    (hown : ∀ i ∈ issues, i.category = own) :
    (∀ i ∈ issues, i.category ≠ c) ↔ (c = own → issues = []) := by
  constructor
  · rintro h rfl
    exact List.eq_nil_iff_forall_not_mem.mpr fun i hi => h i hi (hown i hi)
  · intro h i hi he
    rw [h (he.symm.trans (hown i hi))] at hi
    exact absurd hi List.not_mem_nil

theorem category_of_mem_map {own : Category} {messages : List String} :
    ∀ i ∈ messages.map (Issue.mk own ·), i.category = own :=
  List.forall_mem_map.mpr fun _ _ => rfl

theorem forall_detailIssues : (∀ i ∈ detailIssues d, i.category ≠ c) ↔
    (c = .parameters → ParametersHold d.parameters) ∧ (c = .fieldTypes → FieldsHold d.fields) ∧
      (c = .joinConditions → ConditionHolds d.parameters d.condition) := by
  rw [← parametersIssues_eq_nil, ← fieldsIssues_eq_nil, ← conditionIssues_eq_nil, detailIssues,
    List.forall_mem_append, List.forall_mem_append, and_assoc]
  exact and_congr (forall_category_ne category_of_mem_map)
    (and_congr (forall_category_ne category_of_mem_map) (forall_category_ne category_of_mem_map))

theorem holds_check {joins : List (Value × Value)} (h : check joins = .ok r) :
    r.holds c = true ↔ (c = .shape → ∀ v, Reaches joins v → WellShaped v) ∧
      ∀ entries parameters, Collected joins entries parameters →
        (c = .parameters → ParametersHold parameters) ∧
        (c = .fieldTypes → FieldsHold ((Value.find? entries (.text "fields")).getD (.map []))) ∧
        (c = .joinConditions → ConditionHolds parameters
          ((Value.find? entries (.text "join_condition")).getD .null)) := by
  obtain ⟨es, he⟩ := exists_check joins
  cases h.symm.trans he
  rw [Report.holds_iff, List.forall_mem_append, and_comm]
  refine and_congr ?_ ?_
  · rw [← issues_collect_eq_nil []]
    exact forall_category_ne fun i hi => category_of_mem_collect hi
  · rw [List.forall_mem_flatMap]
    simp only [forall_detailIssues]
    exact forall_details_collect (B := fun parameters fields condition =>
      (c = .parameters → ParametersHold parameters) ∧ (c = .fieldTypes → FieldsHold fields) ∧
        (c = .joinConditions → ConditionHolds parameters condition)) []

theorem fieldsHold_getD {fields : Option Value} :
    FieldsHold (fields.getD (.map [])) ↔ ∃ v, fields = some v ∧ FieldsHold v := by
  cases fields with
  | none =>
    refine iff_of_false ?_ (by simp)
    rintro ⟨entries, he, hne, _⟩
    cases he
    exact hne rfl
  | some v => simp

theorem conditionHolds_getD {parameters : Value} {condition : Option Value} :
    ConditionHolds parameters (condition.getD .null) ↔
      ∀ v, condition = some v → ConditionHolds parameters v := by
  cases condition with
  | none => exact iff_of_true (.inl rfl) nofun
  | some v => simp

/-- Checking a joins mapping gives a report, and each of its flags holds exactly
when its rule holds of the joins that are reached. -/
theorem check_flags (joins : List (Value × Value)) :
    ∃ report, check joins = .ok report ∧
      (report.holds .shape = true ↔ ∀ v, Reaches joins v → WellShaped v) ∧
      (report.holds .parameters = true ↔ ∀ entries parameters,
        Collected joins entries parameters → ParametersHold parameters) ∧
      (report.holds .fieldTypes = true ↔ ∀ entries parameters,
        Collected joins entries parameters →
        ∃ fields, Value.find? entries (.text "fields") = some fields ∧ FieldsHold fields) ∧
      (report.holds .joinConditions = true ↔ ∀ entries parameters,
        Collected joins entries parameters →
        ∀ condition, Value.find? entries (.text "join_condition") = some condition →
          ConditionHolds parameters condition) ∧
      (report.isValid = true ↔ ∀ c, report.holds c = true) ∧
      (report.isValid = true ↔ report.issues = []) := by
  obtain ⟨es, h⟩ := exists_check joins
  refine ⟨_, h, ?_, ?_, ?_, ?_, Report.isValid_iff, Report.isValid_iff_issues⟩
  · rw [holds_check h]
    simp
  · rw [holds_check h]
    simp
  · rw [holds_check h]
    simp [fieldsHold_getD]
  · rw [holds_check h]
    simp [conditionHolds_getD]

end SchemaJoins.Validation
