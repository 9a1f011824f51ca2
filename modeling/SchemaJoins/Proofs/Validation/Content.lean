import SchemaJoins.Proofs.Source.Extraction
import SchemaJoins.Proofs.Validation.Declarations
import SchemaJoins.Validation.Content

/-! # Reports on domain files

A text has a report when looking for its joins has an outcome, and all that the
report shows of them can be written. Short integers, the only ones that decimal
digits can spell, give no cause for anything else.
-/

namespace SchemaJoins.Validation

open Source

variable {content : String} {joins entries : List (Value × Value)} {config v : Value}
  {d : Detail} {r : Report}

section Shown

mutual

theorem isWritable_of_mem_joinNames : (joins : List (Value × Value)) →
    Value.areEntriesWritable joins = true → ∀ v ∈ joinNames joins, v.isWritable = true
  | [], _ => by simp [joinNames]
  | (name, config) :: rest, h => by
    simp only [Value.areEntriesWritable, Bool.and_eq_true] at h
    obtain ⟨⟨hname, hconfig⟩, hrest⟩ := h
    rw [joinNames, List.forall_mem_cons, List.forall_mem_append]
    exact ⟨hname, isWritable_of_mem_namesWithin config hconfig,
      isWritable_of_mem_joinNames rest hrest⟩

theorem isWritable_of_mem_namesWithin : (config : Value) → config.isWritable = true →
    ∀ v ∈ namesWithin config, v.isWritable = true
  | .map entries, h => by
    rw [namesWithin]
    rw [Value.isWritable] at h
    exact isWritable_of_mem_nestedNames entries h
  | .null, _ | .bool _, _ | .int _, _ | .real _, _ | .text _, _ | .list _, _ | .tuple _, _
  | .set _, _ | .bytes _, _ | .date _, _ | .moment _, _ => by simp [namesWithin]

theorem isWritable_of_mem_nestedNames : (entries : List (Value × Value)) →
    Value.areEntriesWritable entries = true → ∀ v ∈ nestedNames entries, v.isWritable = true
  | [], _ => by simp [nestedNames]
  | (key, nested) :: rest, h => by
    simp only [Value.areEntriesWritable, Bool.and_eq_true] at h
    obtain ⟨⟨-, hnested⟩, hrest⟩ := h
    rw [nestedNames.eq_def]
    dsimp only
    split
    · split
      · rename_i joins
        rw [Value.isWritable] at hnested
        exact isWritable_of_mem_joinNames joins hnested
      · nofun
    · exact isWritable_of_mem_nestedNames rest hrest

end

theorem isWritable_of_reaches (h : Reaches joins v)
    (hjoins : Value.areEntriesWritable joins = true) : v.isWritable = true := by
  induction h with
  | entry hm => exact (Value.areEntriesWritable_iff.mp hjoins _ hm).2
  | nested hm hf _ ih =>
    have hentries := (Value.areEntriesWritable_iff.mp hjoins _ hm).2
    rw [Value.isWritable] at hentries
    have hnested := Value.isWritable_of_find? hentries hf
    rw [Value.isWritable] at hnested
    exact ih hnested

theorem isWritable_lookup (key : String) (h : Value.areEntriesWritable entries = true) :
    (lookup entries key).isWritable = true :=
  Value.isWritable_getD_find? h rfl

theorem forall_mem_unless {shown : List Value} {c : Bool}
    (h : ∀ v ∈ shown, v.isWritable = true) :
    ∀ v ∈ (if c then [] else shown), v.isWritable = true := by
  cases c
  · exact h
  · nofun

theorem isWritable_of_mem_shownOfParameter {p : Value} (h : p.isWritable = true) :
    ∀ v ∈ shownOfParameter p, v.isWritable = true := by
  cases p with
  | map entries =>
    rw [Value.isWritable] at h
    have hname := isWritable_lookup "name" h
    have htype := isWritable_lookup "type" h
    rw [shownOfParameter, List.forall_mem_append]
    exact ⟨forall_mem_unless (by simp [hname, htype]), forall_mem_unless (by simp [hname])⟩
  | _ => simp [shownOfParameter]

theorem isWritable_of_mem_shownOfField {name config : Value} (hname : name.isWritable = true)
    (h : config.isWritable = true) : ∀ v ∈ shownOfField name config, v.isWritable = true := by
  cases config with
  | map entries =>
    rw [Value.isWritable] at h
    have htype := isWritable_lookup "type" h
    exact forall_mem_unless (by simp [hname, htype])
  | _ => simp [shownOfField, hname]

theorem areEntriesWritable_fieldEntries (h : v.isWritable = true) :
    Value.areEntriesWritable (fieldEntries v) = true := by
  cases v with
  | map fields => exact h
  | _ => rfl

theorem areWritable_of_asSequence? {items : List Value} (h : v.isWritable = true)
    (hv : asSequence? v = some items) : Value.areWritable items = true := by
  cases v with
  | list xs | tuple xs =>
    cases hv
    exact h
  | _ => cases hv

theorem isWritable_of_mem_shownOfDetail (hparameters : d.parameters.isWritable = true)
    (hfields : d.fields.isWritable = true) : ∀ v ∈ shownOfDetail d, v.isWritable = true := by
  have hentries := Value.areEntriesWritable_iff.mp (areEntriesWritable_fieldEntries hfields)
  unfold shownOfDetail
  split
  · exact List.forall_mem_map.mpr fun f hf => (hentries f hf).1
  · rw [List.forall_mem_append, List.forall_mem_flatMap, List.forall_mem_flatMap]
    constructor
    · intro p hp
      cases hitems : asSequence? d.parameters with
      | none =>
        rw [hitems] at hp
        cases hp
      | some items =>
        rw [hitems] at hp
        have hall := areWritable_of_asSequence? hparameters hitems
        exact isWritable_of_mem_shownOfParameter (Value.areWritable_iff.mp hall p hp)
    · rintro ⟨name, config⟩ hf
      exact isWritable_of_mem_shownOfField (hentries _ hf).1 (hentries _ hf).2

theorem isWritable_of_mem_shownInReport (h : Value.areEntriesWritable joins = true) :
    ∀ v ∈ shownInReport joins, v.isWritable = true := by
  rw [shownInReport, List.forall_mem_append, List.forall_mem_flatMap]
  refine ⟨isWritable_of_mem_joinNames joins h, fun d hd => ?_⟩
  have hparts := (forall_details_collect (B := fun parameters fields _ =>
    parameters.isWritable = true ∧ fields.isWritable = true) []).mpr ?_ d hd
  · exact isWritable_of_mem_shownOfDetail hparts.1 hparts.2
  · rintro entries parameters ⟨hreaches, hparameters⟩
    have hentries := isWritable_of_reaches hreaches h
    rw [Value.isWritable] at hentries
    exact ⟨Value.isWritable_of_find? hentries hparameters,
      Value.isWritable_getD_find? hentries rfl⟩

end Shown

section Reports

variable {x : Extraction}

inductive IsReportOn : Extraction → Report → Prop where
  | absent : IsReportOn .absent .absent
  | failed (f : JoinsFault) : IsReportOn (.failed f) (.unusable f.message)
  | found {joins : List (Value × Value)} {r : Report} :
      (∀ v ∈ shownInReport joins, v.isWritable = true) → check joins = .ok r →
      IsReportOn (.found joins) r

theorem IsReportOn.joinsFound_eq (h : IsReportOn x r) : r.joinsFound = x.isFound := by
  cases h with
  | absent | failed => rfl
  | found _ hr =>
    obtain ⟨entries, hcheck⟩ := exists_check _
    cases hr.symm.trans hcheck
    rfl

theorem exists_isReportOn_iff :
    (∃ r, IsReportOn x r) ↔ ∀ v ∈ shownInReport x.joins, v.isWritable = true := by
  cases x with
  | absent => exact iff_of_true ⟨_, .absent⟩ nofun
  | failed f => exact iff_of_true ⟨_, .failed f⟩ nofun
  | found joins =>
    constructor
    · rintro ⟨r, ⟨⟩⟩
      assumption
    · intro h
      obtain ⟨entries, hcheck⟩ := exists_check joins
      exact ⟨_, .found h hcheck⟩

theorem result_checkContent_eq_ok : (checkContent content).result = .ok r ↔
    ∃ x, extractJoins content = .ok x ∧ IsReportOn x r := by
  unfold checkContent
  rw [Logged.result_bind_eq_ok]
  refine exists_congr fun x => and_congr Iff.rfl ?_
  cases x with
  | absent =>
    constructor
    · rintro ⟨⟩
      exact .absent
    · rintro ⟨⟩
      rfl
  | failed f =>
    constructor
    · rintro ⟨⟩
      exact .failed f
    · rintro ⟨⟩
      rfl
  | found joins =>
    dsimp only
    split
    · rename_i h
      exact ⟨.found (List.all_eq_true.mp h), fun | .found _ hr => hr⟩
    · rename_i h
      exact iff_of_false nofun fun | .found hall _ => h (List.all_eq_true.mpr hall)

theorem result_checkContent_of_error {f : Fault} (h : extractJoins content = .error f) :
    (checkContent content).result = .error f :=
  Logged.result_bind_of_error h _

theorem result_checkContent_of_ok (h : extractJoins content = .ok x) :
    (checkContent content).result = .ok r ↔ IsReportOn x r := by
  rw [result_checkContent_eq_ok]
  constructor
  · rintro ⟨x', hx', hr⟩
    cases h.symm.trans hx'
    exact hr
  · exact fun hr => ⟨x, h, hr⟩

theorem areEntriesWritable_of_hasShortIntegers
    (hshort : ∀ n, IsJoinsNode content n → n.HasShortIntegers) (hx : IsConsistent content x) :
    Value.areEntriesWritable x.joins = true := by
  cases x with
  | absent | failed => rfl
  | found joins =>
    obtain ⟨n, hn, hjoins⟩ := (hx.found_iff joins).mp ⟨rfl, rfl, rfl⟩
    exact (n.isShown_evaluate (hshort n hn)).result _ ((n.evaluate_eq_ok).mpr hjoins)

/-- Looking for the joins of a text has an outcome unless the text has a null
character or stops at a key that cannot be written. The fields of the outcome fit
each other, the text has a report unless that would show what cannot be written,
and the report says whether joins were found. Without a null character short
integers give no cause for a fault. -/
theorem outcome_and_report_iff (content : String) :
    ((∃ x, extractJoins content = .ok x) ↔
      '\x00' ∉ content.toList ∧ ∀ n, IsJoinsNode content n → ¬ n.StopsAtLongKey) ∧
    (∀ x, extractJoins content = .ok x → IsConsistent content x ∧
      ((∃ r, (checkContent content).result = .ok r) ↔
        ∀ v ∈ shownInReport x.joins, v.isWritable = true) ∧
      ∀ r, (checkContent content).result = .ok r → r.joinsFound = x.isFound) ∧
    (∀ f, extractJoins content = .error f → (checkContent content).result = .error f) ∧
    ('\x00' ∉ content.toList → (∀ n, IsJoinsNode content n → n.HasShortIntegers) →
      ∃ x r, extractJoins content = .ok x ∧ (checkContent content).result = .ok r) := by
  refine ⟨exists_extractJoins_iff, fun x hx => ?_, fun f => result_checkContent_of_error,
    fun hnull hshort => ?_⟩
  · refine ⟨isConsistent_of_extractJoins hx, ?_, fun r hr => ?_⟩
    · simp only [result_checkContent_of_ok hx, exists_isReportOn_iff]
    · exact ((result_checkContent_of_ok hx).mp hr).joinsFound_eq
  · obtain ⟨x, hx⟩ := exists_extractJoins_iff.mpr
      ⟨hnull, fun n hn => (hshort n hn).not_stopsAtLongKey⟩
    have hjoins := areEntriesWritable_of_hasShortIntegers hshort (isConsistent_of_extractJoins hx)
    obtain ⟨r, hr⟩ := exists_isReportOn_iff.mpr (isWritable_of_mem_shownInReport hjoins)
    exact ⟨x, r, hx, (result_checkContent_of_ok hx).mpr hr⟩

/-- A line that is well formed but for the null character at its end. -/
def nullText : String := "x = 1\x00"

theorem not_total_nullText : ¬ ∀ content, ∃ x, extractJoins content = .ok x := by
  intro h
  have hnull : '\x00' ∈ nullText.toList := by decide
  obtain ⟨x, hx⟩ := h nullText
  rw [extractJoins_of_null hnull] at hx
  cases hx

end Reports

end SchemaJoins.Validation
