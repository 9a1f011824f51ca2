import Mathlib.Data.List.Induction
import SchemaJoins.Proofs.Validation.Declared
import SchemaJoins.Proofs.Validation.Reachable

/-! # The declarations of a report

A report has an entry for every join with parameters that is reached. The entry
has a declaration when nothing is wrong with the join, and the declaration says of
it what its configuration says.
-/

namespace SchemaJoins.Validation

variable {v : Value} {d : Detail} {decl : Declaration}

def IsParameterOf (v : Value) (p : Parameter) : Prop :=
  ∃ entries, v = .map entries ∧
    Value.find? entries (.text "name") = some (.text p.name) ∧
    Value.find? entries (.text "type") = some (.text p.typeName) ∧
    p.required = ((Value.find? entries (.text "required")).getD (.bool false)).isTrue ∧
    p.default = (Value.find? entries (.text "default")).getD .null

def IsOfType (config : Value) (typeName : String) : Prop :=
  ∃ entries, config = .map entries ∧ Value.find? entries (.text "type") = some (.text typeName)

/-- The fields by name, each once. Names that read the same are one field, and it
has the type of the last of them. -/
structure AreFieldsOf (fields : List (Value × Value)) (built : List (String × String)) : Prop where
  nodup : (built.map (·.1)).Nodup
  mem_names : ∀ name, name ∈ built.map (·.1) ↔ ∃ f ∈ fields, f.1.display = name
  types : ∀ b ∈ built, ∃ before f after, fields = before ++ f :: after ∧ f.1.display = b.1 ∧
    (∀ later ∈ after, later.1.display ≠ b.1) ∧ IsOfType f.2 b.2

/-- The declaration says what was found of the join, and what its condition
mentions are its parameters. -/
structure IsDeclarationOf (d : Detail) (decl : Declaration) : Prop where
  name : decl.name = d.name
  path : decl.path = d.path
  parameters : ∃ items, IsSequence d.parameters items ∧
    List.Forall₂ IsParameterOf items decl.parameters
  fields : ∃ entries, d.fields = .map entries ∧ AreFieldsOf entries decl.fields
  condition : d.condition = (decl.condition.map Value.text).getD .null
  nodup : decl.parameterNames.Nodup
  placeholders : ∀ p ∈ decl.placeholders, p ∈ decl.parameterNames

section Reading

theorem asText_eq_ok {s : String} : asText v = .ok s ↔ v = .text s := by
  cases v <;> simp [asText]

theorem isParameterOf_of_buildParameter {p : Parameter} (h : buildParameter v = .ok p) :
    IsParameterOf v p := by
  obtain ⟨name, hname, h⟩ := bind_eq_ok.mp h
  obtain ⟨s, hs, h⟩ := bind_eq_ok.mp h
  obtain ⟨typeName, htype, h⟩ := bind_eq_ok.mp h
  obtain ⟨t, ht, h⟩ := bind_eq_ok.mp h
  obtain rfl := asText_eq_ok.mp hs
  obtain rfl := asText_eq_ok.mp ht
  obtain ⟨entries, rfl, hfound⟩ := Value.item_eq_ok.mp hname
  obtain ⟨_, he, htyped⟩ := Value.item_eq_ok.mp htype
  cases he
  cases h
  exact ⟨entries, rfl, hfound, htyped, rfl, rfl⟩

end Reading

section Fields

variable {built : List (String × String)} {key typeName : String}

def withField (key typeName : String) (built : List (String × String)) : List (String × String) :=
  if built.any (·.1 == key) then built.map fun f => if f.1 == key then (key, typeName) else f
  else built ++ [(key, typeName)]

theorem map_fst_withField : (withField key typeName built).map (·.1) =
    if key ∈ built.map (·.1) then built.map (·.1) else built.map (·.1) ++ [key] := by
  have hany : built.any (·.1 == key) = true ↔ key ∈ built.map (·.1) := by
    simp [List.any_eq_true]
  unfold withField
  by_cases hk : key ∈ built.map (·.1)
  · rw [if_pos (hany.mpr hk), if_pos hk, List.map_map]
    refine List.map_congr_left fun f _ => ?_
    by_cases hf : f.1 = key <;> simp [hf]
  · rw [if_neg (mt hany.mp hk), if_neg hk, List.map_append]
    rfl

theorem mem_withField {b : String × String} (h : b ∈ withField key typeName built) :
    b = (key, typeName) ∨ b ∈ built ∧ b.1 ≠ key := by
  unfold withField at h
  split at h
  · obtain ⟨f, hf, rfl⟩ := List.mem_map.mp h
    by_cases hk : f.1 = key
    · exact .inl (by simp [hk])
    · exact .inr (by simp [hk, hf])
  · rename_i hnone
    rcases List.mem_append.mp h with hb | hb
    · refine .inr ⟨hb, fun hk => hnone ?_⟩
      exact List.any_eq_true.mpr ⟨b, hb, beq_iff_eq.mpr hk⟩
    · exact .inl (List.mem_singleton.mp hb)

theorem AreFieldsOf.append_singleton {fields : List (Value × Value)} {name config : Value}
    (h : AreFieldsOf fields built) (hconfig : IsOfType config typeName) :
    AreFieldsOf (fields ++ [(name, config)]) (withField name.display typeName built) := by
  constructor
  · rw [map_fst_withField]
    split
    · exact h.nodup
    · rename_i hnew
      refine List.nodup_append.mpr ⟨h.nodup, by simp, fun a ha b hb hab => hnew ?_⟩
      exact List.mem_singleton.mp hb ▸ hab ▸ ha
  · intro other
    simp only [List.mem_append, List.mem_singleton, or_and_right, exists_or, exists_eq_left,
      ← h.mem_names other, map_fst_withField]
    split
    · rename_i hknown
      exact ⟨.inl, fun ho => ho.elim id fun ho => ho ▸ hknown⟩
    · rw [List.mem_append, List.mem_singleton]
      exact or_congr_right eq_comm
  · intro b hb
    rcases mem_withField hb with rfl | ⟨hb, hother⟩
    · exact ⟨fields, _, [], rfl, rfl, nofun, hconfig⟩
    · obtain ⟨before, f, after, rfl, hf, hlast, htype⟩ := h.types b hb
      refine ⟨before, f, after ++ [(name, config)], by simp, hf, fun later hlater => ?_, htype⟩
      rcases List.mem_append.mp hlater with hlater | hlater
      · exact hlast later hlater
      · exact List.mem_singleton.mp hlater ▸ Ne.symm hother

theorem areFieldsOf_of_buildFields {fields : List (Value × Value)}
    (h : buildFields fields = .ok built) : AreFieldsOf fields built := by
  induction fields using List.reverseRecOn generalizing built with
  | nil =>
    cases h
    exact ⟨List.nodup_nil, by simp, nofun⟩
  | append_singleton fields f ih =>
    obtain ⟨name, config⟩ := f
    rw [buildFields, List.foldlM_append] at h
    obtain ⟨earlier, hearlier, h⟩ := bind_eq_ok.mp h
    obtain ⟨_, h, hlast⟩ := bind_eq_ok.mp h
    cases hlast
    obtain ⟨found, hfound, h⟩ := bind_eq_ok.mp h
    obtain ⟨typeName, ht, h⟩ := bind_eq_ok.mp h
    obtain rfl := asText_eq_ok.mp ht
    cases h
    exact (ih hearlier).append_singleton (Value.item_eq_ok.mp hfound)

end Fields

section Declaring

theorem of_check {checked : Declaration} (h : decl.check = .ok checked) :
    checked = decl ∧ decl.parameterNames.Nodup ∧
      ∀ p ∈ decl.placeholders, p ∈ decl.parameterNames := by
  unfold Declaration.check at h
  dsimp only at h
  split at h
  · cases h
  · rename_i hrepeated
    split at h
    · cases h
    · rename_i hunknown
      cases h
      refine ⟨rfl, repeatedTexts_eq_nil.mp (by simpa using hrepeated), fun p hp => ?_⟩
      have hall : ∀ p ∈ decl.placeholders, p ∈ decl.parameterNames := by simpa using hunknown
      exact hall p hp

theorem exists_isDeclarationOf (h : detailIssues d = []) :
    ∃ decl, declare d = .ok decl ∧ IsDeclarationOf d decl := by
  simp only [detailIssues, List.append_eq_nil_iff, parametersIssues_eq_nil, fieldsIssues_eq_nil,
    conditionIssues_eq_nil] at h
  obtain ⟨⟨hp, hf⟩, hc⟩ := h
  obtain ⟨decl, hdecl⟩ := exists_declare hp hf hc
  obtain ⟨ps, hps, h⟩ := bind_eq_ok.mp hdecl
  obtain ⟨entries, hentries, h⟩ := bind_eq_ok.mp h
  obtain ⟨built, hbuilt, h⟩ := bind_eq_ok.mp h
  obtain ⟨rfl, hnodup, hnames⟩ := of_check h
  obtain ⟨items, _, hitems, _⟩ := hp
  obtain ⟨fields, hfields, _⟩ := hf
  rw [asSequence?_eq_some.mpr hitems] at hps
  rw [hfields] at hentries
  obtain rfl : fields = entries := Except.ok.inj hentries
  refine ⟨_, hdecl, rfl, rfl, ⟨items, hitems, ?_⟩, ⟨fields, hfields, ?_⟩, ?_, hnodup, hnames⟩
  · exact (mapM_eq_ok.mp hps).imp fun _ _ => isParameterOf_of_buildParameter
  · exact areFieldsOf_of_buildFields hbuilt
  · obtain hnull | ⟨s, htext, _⟩ := hc
    · rw [hnull]
      rfl
    · rw [htext]
      rfl

end Declaring

section Report

/-- The entry has a declaration exactly when nothing is wrong with its join. -/
structure IsEntryOf (d : Detail) (e : Entry) : Prop where
  detail : e.detail = d
  declared : detailIssues d = [] →
    ∃ decl, e.declaration = some decl ∧ declare d = .ok decl ∧ IsDeclarationOf d decl
  refused : detailIssues d ≠ [] → e.declaration = none

theorem exists_isEntryOf (d : Detail) : ∃ e, entry d = .ok e ∧ IsEntryOf d e := by
  by_cases h : detailIssues d = []
  · obtain ⟨decl, hdecl, hof⟩ := exists_isDeclarationOf h
    refine ⟨⟨d, some decl⟩, ?_, rfl, fun _ => ⟨decl, rfl, hdecl, hof⟩, fun hne => absurd h hne⟩
    rw [entry, if_pos (List.isEmpty_iff.mpr h), hdecl]
    rfl
  · refine ⟨⟨d, none⟩, ?_, rfl, fun he => absurd he h, fun _ => rfl⟩
    rw [entry, if_neg (mt List.isEmpty_iff.mp h)]

theorem exists_detail_of_collected {joins entries : List (Value × Value)} {parameters : Value}
    (h : Collected joins entries parameters) :
    ∃ d ∈ (collect [] joins).details, d.parameters = parameters ∧
      d.fields = (Value.find? entries (.text "fields")).getD (.map []) ∧
      d.condition = (Value.find? entries (.text "join_condition")).getD .null := by
  by_contra hnone
  have hall := @forall_details_collect joins (fun p f c => ¬ (p = parameters ∧
    f = (Value.find? entries (.text "fields")).getD (.map []) ∧
    c = (Value.find? entries (.text "join_condition")).getD .null)) []
  exact hall.mp (fun d hd hsame => hnone ⟨d, hd, hsame⟩) entries parameters h ⟨rfl, rfl, rfl⟩

theorem exists_report (joins : List (Value × Value)) : ∃ entries,
    check joins = .ok ⟨entries, (collect [] joins).details.flatMap detailIssues ++
      (collect [] joins).issues, true⟩ ∧
    List.Forall₂ IsEntryOf (collect [] joins).details entries := by
  obtain ⟨entries, hentries, hall⟩ := exists_mapM_forall₂
    fun d (_ : d ∈ (collect [] joins).details) => exists_isEntryOf d
  refine ⟨entries, ?_, hall⟩
  rw [check, hentries]
  rfl

theorem exists_check (joins : List (Value × Value)) : ∃ entries,
    check joins = .ok ⟨entries, (collect [] joins).details.flatMap detailIssues ++
      (collect [] joins).issues, true⟩ := by
  obtain ⟨entries, h, -⟩ := exists_report joins
  exact ⟨entries, h⟩

/-- Checking a joins mapping always gives a report. It has an entry for every join
with parameters that is reached, and whatever passes the checks of a join can be
declared: all keys that are read are there, the names of the parameters are
distinct, and the condition mentions no others. -/
theorem check_declares (joins : List (Value × Value)) :
    ∃ report, check joins = .ok report ∧
      List.Forall₂ IsEntryOf (collect [] joins).details report.entries ∧
      ∀ entries parameters, Collected joins entries parameters →
        ∃ e ∈ report.entries, IsEntryOf e.detail e ∧ e.detail.parameters = parameters ∧
          e.detail.fields = (Value.find? entries (.text "fields")).getD (.map []) ∧
          e.detail.condition = (Value.find? entries (.text "join_condition")).getD .null := by
  obtain ⟨found, hcheck, hall⟩ := exists_report joins
  refine ⟨_, hcheck, hall, fun entries parameters h => ?_⟩
  obtain ⟨d, hd, hsame⟩ := exists_detail_of_collected h
  obtain ⟨e, he, hentry⟩ := exists_of_mem_left hall hd
  obtain rfl := hentry.detail
  exact ⟨e, he, hentry, hsame⟩

end Report

end SchemaJoins.Validation
