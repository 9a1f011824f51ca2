import SchemaJoins.Proofs.Data.Steps
import SchemaJoins.Validation.Check

/-! # The rules of a join with parameters

Each of the three checks of a join finds nothing exactly when its rule holds: the
parameters declare distinct names, there are fields and they have types, and the
condition mentions no other names.
-/

namespace SchemaJoins

theorem repeatedTexts_eq_nil {xs : List String} : repeatedTexts xs = [] ↔ xs.Nodup := by
  rw [repeatedTexts, sortTexts, ← List.length_eq_zero_iff, List.length_mergeSort,
    List.length_eq_zero_iff, List.filter_eq_nil_iff, List.nodup_iff_count]
  constructor
  · intro h x
    by_cases hx : x ∈ xs
    · simpa using h x (List.mem_eraseDups.mpr hx)
    · rw [List.count_eq_zero_of_not_mem hx]
      exact Nat.zero_le 1
  · intro h x _
    simpa using h x

namespace Validation

def IsSequence (v : Value) (items : List Value) : Prop := v = .list items ∨ v = .tuple items

/-- The entry for the type names one of the allowed types. -/
def HasType (allowed : List String) (entries : List (Value × Value)) : Prop :=
  ∃ t ∈ allowed, Value.find? entries (.text "type") = some (.text t)

def Declares (v : Value) (name : String) : Prop :=
  ∃ entries, v = .map entries ∧
    (Value.find? entries (.text "name") = some (.text name) ∧
      Text.isIdentifier name.toList = true) ∧
    HasType ParameterType.names entries ∧
    ∀ w, Value.find? entries (.text "required") = some w → ∃ b, w = .bool b

/-- Every parameter declares a name, and no two the same. -/
def ParametersHold (parameters : Value) : Prop :=
  ∃ items names, IsSequence parameters items ∧ List.Forall₂ Declares items names ∧ names.Nodup

/-- There are fields, and every field has a type. -/
def FieldsHold (fields : Value) : Prop :=
  ∃ entries, fields = .map entries ∧ entries ≠ [] ∧
    ∀ e ∈ entries, ∃ config, e.2 = .map config ∧ HasType ParameterType.fieldNames config

/-- There is no condition, or its placeholders are names of the parameters. -/
def ConditionHolds (parameters condition : Value) : Prop :=
  condition = .null ∨ ∃ s, condition = .text s ∧ ∀ p ∈ Placeholder.find s,
    ∃ items entries, IsSequence parameters items ∧ .map entries ∈ items ∧
      Value.find? entries (.text "name") = some (.text p)

variable {v : Value} {items : List Value} {entries : List (Value × Value)} {d : Detail}

theorem asSequence?_eq_some : asSequence? v = some items ↔ IsSequence v items := by
  unfold asSequence? IsSequence
  cases v <;> simp

theorem IsSequence.unique {items' : List Value} (h : IsSequence v items)
    (h' : IsSequence v items') : items = items' := by
  rw [← asSequence?_eq_some] at h h'
  exact Option.some.inj (h.symm.trans h')

theorem lookup_eq_text {key s : String} :
    lookup entries key = .text s ↔ Value.find? entries (.text key) = some (.text s) := by
  unfold lookup
  cases Value.find? entries (.text key) <;> simp

theorem isTypeName_lookup {allowed : List String} :
    isTypeName allowed (lookup entries "type") = true ↔ HasType allowed entries := by
  unfold HasType
  simp only [← lookup_eq_text]
  cases lookup entries "type" <;> simp [isTypeName]

theorem parameterName?_eq_some {name : String} :
    parameterName? entries = some name ↔
      Value.find? entries (.text "name") = some (.text name) ∧
        Text.isIdentifier name.toList = true := by
  rw [← lookup_eq_text, parameterName?]
  cases lookup entries "name" with
  | text s =>
    by_cases hs : Text.isIdentifier s.toList = true
    · simp only [hs, if_true, Option.some.injEq, Value.text.injEq]
      exact ⟨fun h => ⟨h, h ▸ hs⟩, And.left⟩
    · simp only [hs, Bool.false_eq_true, if_false, Value.text.injEq, reduceCtorEq, false_iff]
      rintro ⟨rfl, h⟩
      exact hs h
  | _ => simp

theorem isFlag_required :
    isFlag ((Value.find? entries (.text "required")).getD (.bool false)) = true ↔
      ∀ w, Value.find? entries (.text "required") = some w → ∃ b, w = .bool b := by
  cases Value.find? entries (.text "required") with
  | none => simp [isFlag]
  | some w => cases w <;> simp [isFlag]

theorem parameterIssues_eq_nil {path : String} {position : Nat} :
    parameterIssues path position v = [] ↔ ∃ name, Declares v name := by
  cases v with
  | map entries =>
    simp only [parameterIssues, List.append_eq_nil_iff, ite_eq_left_iff, List.cons_ne_nil,
      imp_false, not_not, Option.isSome_iff_exists, isTypeName_lookup, isFlag_required,
      parameterName?_eq_some]
    constructor
    · rintro ⟨⟨⟨name, hname⟩, htype⟩, hrequired⟩
      exact ⟨name, entries, rfl, hname, htype, hrequired⟩
    · rintro ⟨name, _, he, hname, htype, hrequired⟩
      cases he
      exact ⟨⟨⟨name, hname⟩, htype⟩, hrequired⟩
  | _ =>
    refine iff_of_false (List.cons_ne_nil _ _) ?_
    rintro ⟨_, _, he, _⟩
    cases he

theorem exists_forall₂_declares :
    (∀ v ∈ items, ∃ name, Declares v name) ↔ ∃ names, List.Forall₂ Declares items names := by
  constructor
  · exact exists_forall₂
  · rintro ⟨names, hnames⟩ v hv
    obtain ⟨name, -, hname⟩ := exists_of_mem_left hnames hv
    exact ⟨name, hname⟩

theorem validNames_of_forall₂ {names : List String} (h : List.Forall₂ Declares items names) :
    validNames items = names := by
  induction h with
  | nil => rfl
  | @cons _ name items names hname _ ih =>
    obtain ⟨entries, rfl, hname, _, _⟩ := hname
    have hcons : validNames (.map entries :: items) = name :: validNames items :=
      List.filterMap_cons_some (parameterName?_eq_some.mpr hname)
    rw [hcons, ih]

theorem forall_mem_zipIdx {n : Nat} :
    (∀ e ∈ items.zipIdx n, ∃ name, Declares e.1 name) ↔ ∀ v ∈ items, ∃ name, Declares v name := by
  rw [← List.forall_mem_map (f := Prod.fst) (P := fun v => ∃ name, Declares v name),
    List.zipIdx_map_fst]

theorem parametersIssues_eq_nil : parametersIssues d = [] ↔ ParametersHold d.parameters := by
  unfold parametersIssues ParametersHold
  simp only [List.map_eq_nil_iff, ← asSequence?_eq_some]
  cases asSequence? d.parameters with
  | none => simp
  | some items =>
    simp only [List.append_eq_nil_iff, List.flatMap_eq_nil_iff, parameterIssues_eq_nil,
      forall_mem_zipIdx, List.map_eq_nil_iff, repeatedTexts_eq_nil, exists_forall₂_declares,
      Option.some.injEq]
    constructor
    · rintro ⟨⟨names, hnames⟩, hnodup⟩
      rw [validNames_of_forall₂ hnames] at hnodup
      exact ⟨items, names, rfl, hnames, hnodup⟩
    · rintro ⟨_, names, rfl, hnames, hnodup⟩
      exact ⟨⟨names, hnames⟩, by rwa [validNames_of_forall₂ hnames]⟩

theorem fieldIssues_eq_nil {path : String} {name config : Value} :
    fieldIssues path name config = [] ↔
      ∃ entries, config = .map entries ∧ HasType ParameterType.fieldNames entries := by
  cases config with
  | map entries => simp [fieldIssues, isTypeName_lookup]
  | _ => simp [fieldIssues]

theorem fieldsIssues_eq_nil : fieldsIssues d = [] ↔ FieldsHold d.fields := by
  unfold fieldsIssues FieldsHold
  simp only [List.map_eq_nil_iff]
  split
  · rename_i hf
    rw [hf]
    refine iff_of_false (List.cons_ne_nil _ _) ?_
    rintro ⟨_, he, hne, _⟩
    cases he
    exact hne rfl
  · rename_i fields hne hf
    simp only [hf, List.flatMap_eq_nil_iff, fieldIssues_eq_nil, Value.map.injEq, exists_eq_left']
    exact (and_iff_right hne).symm
  · rename_i hm
    refine iff_of_false (List.cons_ne_nil _ _) ?_
    rintro ⟨entries, he, _⟩
    exact hm entries he

theorem mem_declaredNames {parameters : Value} {name : String} :
    name ∈ declaredNames parameters ↔ ∃ items entries, IsSequence parameters items ∧
      .map entries ∈ items ∧ Value.find? entries (.text "name") = some (.text name) := by
  simp only [declaredNames, List.mem_filterMap, ← asSequence?_eq_some, ← lookup_eq_text]
  constructor
  · rintro ⟨v, hv, hname⟩
    cases hs : asSequence? parameters with
    | none => simp [hs] at hv
    | some items =>
      simp only [hs, Option.getD_some] at hv
      split at hname
      · rename_i entries
        split at hname
        · cases hname
          exact ⟨items, entries, rfl, hv, ‹_›⟩
        · cases hname
      · cases hname
  · rintro ⟨items, entries, hs, hv, hname⟩
    exact ⟨.map entries, by simpa [hs] using hv, by simp [hname]⟩

theorem conditionIssues_eq_nil :
    conditionIssues d = [] ↔ ConditionHolds d.parameters d.condition := by
  unfold conditionIssues ConditionHolds
  simp only [List.map_eq_nil_iff, ← mem_declaredNames]
  cases d.condition with
  | null => simp
  | text s => simp
  | _ => simp

end Validation

end SchemaJoins
