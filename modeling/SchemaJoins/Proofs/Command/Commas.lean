import SchemaJoins.Proofs.Command.ExitCode
import SchemaJoins.Proofs.Reference.Spelling
import SchemaJoins.Proofs.Text.Split

/-! # Commas in references

A comma within quotation marks belongs to a reference, but the text of the command line is
cut at every comma. What stands in front of the first comma of such a reference leaves a
span open, and a text that leaves one open is no reference.
-/

namespace SchemaJoins

namespace Reference

variable {cs p : List Char} {r : Reference}

theorem isBalanced_of_parseChars (h : parseChars cs = .ok (.ok r)) : IsBalanced cs := by
  obtain ⟨join, parameters, field, href, -⟩ := isReference_of_parseChars h
  obtain ⟨left, hsplit, -⟩ := hasPieces_iff.mp ⟨href.toHasPieces, href.no_dot⟩
  obtain ⟨rfl, hleft, -⟩ := (lastSplit?_eq_some (by decide)).mp hsplit
  have hfield : ∀ c ∈ field, isQuote c = false := by
    intro c hc
    rw [Bool.eq_false_iff]
    intro hq
    obtain rfl | rfl := isQuote_iff.mp hq
    · exact not_mem_of_identifier (by decide) (by decide) href.field_name hc
    · exact not_mem_of_identifier (by decide) (by decide) href.field_name hc
  rw [IsBalanced, spanAfterAll_append, hleft, spanAfterAll_cons, spanAfter_separator (by decide)]
  exact spanAfterAll_of_not_quote hfield

theorem isBalanced_of_isBalanced_trim (h : IsBalanced (Text.trim cs)) : IsBalanced cs := by
  obtain ⟨before, after, hcs, hbefore, hafter⟩ := Text.exists_trim cs
  rw [hcs, IsBalanced, spanAfterAll_append, spanAfterAll_blanks hbefore, spanAfterAll_append, h,
    spanAfterAll_blanks hafter]

/-- Separators that are all quoted cut a text behind an open span. -/
theorem exists_part_not_isBalanced {sep : Char} (hmem : sep ∈ cs)
    (hquoted : ¬ HasBare sep none cs) : ∃ part ∈ cs.splitOn sep, ¬ IsBalanced part := by
  -- the part in front of the first separator: were it balanced, that separator would be bare
  obtain ⟨part, rest, rfl, hpart⟩ := List.eq_append_cons_of_mem hmem
  refine ⟨part, ?_, fun hbalanced => hquoted ⟨part, rest, rfl, hbalanced⟩⟩
  rw [List.splitOn_append_cons_self, List.splitOn_eq_singleton hpart]
  exact List.mem_append_left _ List.mem_cons_self

end Reference

namespace Command.Validate

open Files

variable {references option : List String} {text : String}

/-- A reference without blanks around it, in which commas stand within spans only. -/
structure IsListed (source : String) : Prop where
  reads : ∃ r, Reference.parse source = .ok (.ok r)
  trimmed : Text.trim source.toList = source.toList
  quoted : ¬ Reference.HasBare ',' none source.toList

theorem IsListed.ne_nil {source : String} (h : IsListed source) : source.toList ≠ [] := by
  intro hnil
  obtain ⟨r, hr⟩ := h.reads
  rw [Reference.parse, hnil] at hr
  cases hr

/-- Exactly these texts are reported, in order, and the command ends well. -/
def ReportsAll (sources : List String) (o : Outcome) : Prop :=
  ∃ reports, List.Forall₂ IsReportOn sources reports ∧ o.exitCode = 0 ∧ o.fault = none ∧
    o.lines = "Testing parameterized field reference parsing..." :: "" :: reports.flatten

section Joined

variable (hne : references ≠ []) (h : ∀ source ∈ references, IsListed source)

include hne h

theorem referencesIn_joined (hcommas : ∀ source ∈ references, ',' ∉ source.toList) :
    referencesIn (",".intercalate references) = references := by
  have htrim : ∀ source ∈ references, (Text.trim ∘ String.toList) source = source.toList :=
    fun source hsource => (h source hsource).trimmed
  have hfilled : ∀ part ∈ references.map String.toList, (!part.isEmpty) = true := by
    refine List.forall_mem_map.mpr fun source hsource => ?_
    rw [List.isEmpty_eq_false_iff.mpr (h source hsource).ne_nil, Bool.not_false]
  rw [referencesIn, Text.splitOn_intercalate_of_notMem rfl hne hcommas, List.map_map,
    List.map_congr_left htrim, List.filter_eq_self.mpr hfilled, List.map_map]
  simp [Function.comp_def]

theorem holdsReferences_joined_iff : HoldsReferences (",".intercalate references) ↔
    ∀ source ∈ references, ',' ∉ source.toList := by
  constructor
  · intro hholds source hsource hcomma
    obtain ⟨part, hpart, hopen⟩ :=
      Reference.exists_part_not_isBalanced hcomma (h source hsource).quoted
    have hmem : part ∈ Text.splitOn ',' (",".intercalate references).toList := by
      rw [Text.splitOn_eq, Text.splitOn_intercalate_texts rfl hne]
      exact List.mem_flatMap.mpr ⟨source, hsource, hpart⟩
    have hopen : ¬ Reference.IsBalanced (Text.trim part) :=
      fun hbalanced => hopen (Reference.isBalanced_of_isBalanced_trim hbalanced)
    have hfilled : Text.trim part ≠ [] := fun hnil => hopen (by rw [hnil]; rfl)
    obtain ⟨r, hr⟩ := hholds part hmem hfilled
    rw [Reference.parse, String.toList_ofList] at hr
    exact hopen (Reference.isBalanced_of_parseChars hr)
  · intro hcommas
    rw [holdsReferences_iff, referencesIn_joined hne h hcommas]
    exact fun source hsource => (h source hsource).reads

theorem joined_ne_empty : ",".intercalate references ≠ "" := by
  intro hempty
  obtain ⟨source, rest, rfl⟩ := List.exists_cons_of_ne_nil hne
  obtain ⟨following, hjoined⟩ := Text.exists_toList_intercalate "," source rest
  rw [hempty] at hjoined
  exact (h source List.mem_cons_self).ne_nil (List.append_eq_nil_iff.mp hjoined.symm).1

end Joined

section Calls

theorem outcome_option (hgives : Gives (some text) option) (htext : text ≠ "") (files : Tree) :
    outcome ("validate" :: option) files = (run ⟨[], some text⟩).run files := by
  have hcall : outcome ("validate" :: ([] ++ (option ++ []))) files = _ :=
    outcome_validate hgives nofun (.inr ⟨text, rfl, htext⟩)
  have hfilter : (some text).filter (!·.isEmpty) = some text := by simp [htext]
  rwa [List.nil_append, List.append_nil, hfilter] at hcall

theorem exitCode_option_eq_zero_iff (hgives : Gives (some text) option) (htext : text ≠ "")
    (files : Tree) :
    (outcome ("validate" :: option) files).exitCode = 0 ↔ HoldsReferences text := by
  have hnone {P : Path → Prop} : ∀ p ∈ ([] : List Path), P p :=
    fun _ hp => absurd hp List.not_mem_nil
  rw [outcome_option hgives htext, exitCode_run_eq_zero_iff hnone hnone]
  exact ⟨fun h => h.references text rfl, fun h => ⟨fun _ ht => Option.some.inj ht ▸ h, hnone⟩⟩

theorem reportsAll_option (hgives : Gives (some text) option) (htext : text ≠ "")
    (hholds : HoldsReferences text) (files : Tree) :
    ReportsAll (referencesIn text) (outcome ("validate" :: option) files) := by
  obtain ⟨reports, hreports, hdoes⟩ := exists_reports files hholds
  have hrun : Step.Does files (run ⟨[], some text⟩) () _ [] :=
    run_eq ⟨[], some text⟩ ▸ hdoes.bind ((Step.Does.pure true).bind (.pure ()))
  rw [outcome_option hgives htext, hrun.run_eq]
  exact ⟨reports, hreports, rfl, rfl, by simp⟩

end Calls

/-- References that are joined by commas are reported one by one, and the command ends
well, exactly if none of them has a comma of its own, not even a quoted one. -/
theorem reportsAll_joined_iff (hne : references ≠ [])
    (h : ∀ source ∈ references, IsListed source)
    (hgives : Gives (some (",".intercalate references)) option) (files : Tree) :
    ((referencesIn (",".intercalate references) = references ∧
        ReportsAll references (outcome ("validate" :: option) files)) ↔
      ∀ source ∈ references, ',' ∉ source.toList) ∧
    ((outcome ("validate" :: option) files).exitCode = 0 ↔
      ∀ source ∈ references, ',' ∉ source.toList) := by
  have htext := joined_ne_empty hne h
  have hzero : (outcome ("validate" :: option) files).exitCode = 0 ↔ _ :=
    (exitCode_option_eq_zero_iff hgives htext files).trans (holdsReferences_joined_iff hne h)
  refine ⟨⟨?_, fun hcommas => ?_⟩, hzero⟩
  · rintro ⟨-, reports, -, hexit, -⟩
    exact hzero.mp hexit
  · have hsources := referencesIn_joined hne h hcommas
    have hreports := reportsAll_option hgives htext
      ((holdsReferences_joined_iff hne h).mpr hcommas) files
    rw [hsources] at hreports
    exact ⟨hsources, hreports⟩

theorem isListed_quotedComma : IsListed "j:'a,b'.f" where
  reads := ⟨⟨"j", "f", [.text "a,b"]⟩, by rfl⟩
  trimmed := by decide
  quoted := (Reference.lastSplit?_eq_none (by decide)).mp (by decide)

theorem isListed_total : IsListed "orders.total" where
  reads := ⟨⟨"orders", "total", []⟩, by rfl⟩
  trimmed := by decide
  quoted := Reference.not_hasBare (by decide)

theorem reportsAll_joined_iff_total : IsListed "orders.total" ∧ IsListed "j:'a,b'.f" ∧
    ReportsAll ["orders.total", "orders.total"]
      (outcome ["validate", "--test_references", "orders.total,orders.total"] .empty) ∧
    (outcome ["validate", "--test_references", "orders.total,j:'a,b'.f"] .empty).exitCode ≠ 0 := by
  refine ⟨isListed_total, isListed_quotedComma, ?_, ?_⟩
  · have hlisted : ∀ source ∈ ["orders.total", "orders.total"], IsListed source := by
      simp [isListed_total]
    exact ((reportsAll_joined_iff (List.cons_ne_nil _ _) hlisted (.apart _) .empty).1.mpr
      (by decide)).2
  · have hlisted : ∀ source ∈ ["orders.total", "j:'a,b'.f"], IsListed source := by
      simp [isListed_total, isListed_quotedComma]
    exact fun hzero => absurd ((reportsAll_joined_iff (List.cons_ne_nil _ _) hlisted (.apart _)
      .empty).2.mp hzero) (by decide)

/-- A reference with a quoted comma is refused, although it is read as a reference. -/
theorem not_reportsAll_quotedComma : ¬ ∀ references : List String, references ≠ [] →
    (∀ source ∈ references, IsListed source) → ∀ files : Tree, ReportsAll references
      (outcome ["validate", "--test_references", ",".intercalate references] files) := by
  intro hclaim
  have hlisted : ∀ source ∈ ["j:'a,b'.f"], IsListed source :=
    List.forall_mem_singleton.mpr isListed_quotedComma
  obtain ⟨-, -, hzero, -⟩ := hclaim _ (List.cons_ne_nil _ _) hlisted .empty
  have hholds := (exitCode_option_eq_zero_iff (.apart _)
    (joined_ne_empty (List.cons_ne_nil _ _) hlisted) .empty).mp hzero
  exact absurd ((holdsReferences_joined_iff (List.cons_ne_nil _ _) hlisted).mp hholds) (by decide)

end Command.Validate

end SchemaJoins
