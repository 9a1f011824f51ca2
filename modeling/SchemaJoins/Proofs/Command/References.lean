import SchemaJoins.Proofs.Command.Invocation
import SchemaJoins.Proofs.Command.Steps
import SchemaJoins.Proofs.Console.Markup
import SchemaJoins.Proofs.Reference.Grammar

/-! # References at the command line

References that are given in one text are tested one by one. What is a reference can be
shown, so that no text gets in the way of a good end.
-/

namespace SchemaJoins.Command.Validate

open Console Files

variable {files : Tree} {source : String} {r : Reference}

theorem paragraph_validSyntax :
    paragraph "  [green]Valid syntax[/green]" = .ok ["  Valid syntax".toList] := by rfl

theorem paragraph_empty : paragraph "" = .ok [[]] := by rfl

theorem paragraph_testing :
    paragraph "[bold blue]Testing parameterized field reference parsing...[/bold blue]\n" =
      .ok ["Testing parameterized field reference parsing...".toList, []] := by rfl

def ShowsParts (r : Reference) (lines : List String) : Prop :=
  ∃ parsed parameters : List Line,
    paragraph ("  Parsed: join=" ++ r.join ++ ", field=" ++ r.field ++ ", kind=" ++ r.kind.name) =
      .ok parsed ∧
    (if r.kind = .parameterized then
      paragraph ("  Parameters: " ++ escape (", ".intercalate (r.parameters.map Value.literal))) =
        .ok parameters
    else parameters = []) ∧
    lines = "  Valid syntax" :: (parsed.map String.ofList ++ parameters.map String.ofList)

/-- The lines name the text and show the parts of the reference that it is. -/
def IsReportOn (source : String) (report : List String) : Prop :=
  ∃ (r : Reference) (named : List Line) (parts : List String),
    Reference.parse source = .ok (.ok r) ∧
    paragraph ("Testing: " ++ escape (quoted source)) = .ok named ∧ ShowsParts r parts ∧
    report = named.map String.ofList ++ (parts ++ [""])

theorem notMem_bracket_of_parse (h : Reference.parse source = .ok (.ok r)) :
    '[' ∉ r.join.toList ∧ '[' ∉ r.field.toList := by
  obtain ⟨join, parameters, field, href, hjoin, hfield, -⟩ :=
    Reference.isReference_of_parseChars h
  rw [hjoin, hfield, String.toList_ofList, String.toList_ofList]
  exact ⟨Text.not_mem_of_isIdentifierWord (by decide) href.join_name,
    Text.not_mem_of_isIdentifierWord (by decide) href.field_name⟩

theorem exists_paragraph_escape {start : String} (hbracket : '[' ∉ start.toList)
    (hslash : '\\' ∉ start.toList) (s : String) :
    ∃ lines, paragraph (start ++ escape s) = .ok lines := by
  refine exists_paragraph ?_
  rw [String.toList_append]
  exact .append hbracket hslash (showsAsText_escape s).renders

theorem does_print {markup : String} {lines : List Line} (h : paragraph markup = .ok lines) :
    Step.Does files (Step.print markup) () (lines.map String.ofList) [] :=
  .writeRendered h

theorem exists_showsParts (files : Tree) (h : Reference.parse source = .ok (.ok r)) :
    ∃ parts, ShowsParts r parts ∧ Step.Does files (printReference r) () parts [] := by
  obtain ⟨hjoin, hfield⟩ := notMem_bracket_of_parse h
  have hkind : '[' ∉ r.kind.name.toList := by cases r.kind <;> decide
  have hplain : '[' ∉ ("  Parsed: join=" ++ r.join ++ ", field=" ++ r.field ++ ", kind=" ++
      r.kind.name).toList := by
    simp only [String.toList_append, List.mem_append, not_or]
    exact ⟨⟨⟨⟨⟨by decide, hjoin⟩, by decide⟩, hfield⟩, by decide⟩, hkind⟩
  obtain ⟨parsed, hparsed⟩ := exists_paragraph (.of_not_bracket hplain)
  have hstart : '[' ∉ "  Parameters: ".toList ∧ '\\' ∉ "  Parameters: ".toList := by decide
  obtain ⟨parameters, hparameters⟩ := exists_paragraph_escape hstart.1 hstart.2
    (", ".intercalate (r.parameters.map Value.literal))
  by_cases hk : r.kind = .parameterized
  · refine ⟨_, ⟨parsed, parameters, hparsed, by rwa [if_pos hk], rfl⟩, ?_⟩
    unfold printReference
    rw [if_pos (beq_iff_eq.mpr hk)]
    exact (does_print paragraph_validSyntax).bind
      ((does_print hparsed).bind (does_print hparameters))
  · refine ⟨_, ⟨parsed, [], hparsed, by rw [if_neg hk], rfl⟩, ?_⟩
    unfold printReference
    rw [if_neg (mt beq_iff_eq.mp hk)]
    exact (does_print paragraph_validSyntax).bind ((does_print hparsed).bind (.pure ()))

theorem exists_reportOn (files : Tree) (h : Reference.parse source = .ok (.ok r)) :
    ∃ report, IsReportOn source report ∧
      Step.Does files (testReference source) true report [] := by
  have hstart : '[' ∉ "Testing: ".toList ∧ '\\' ∉ "Testing: ".toList := by decide
  obtain ⟨named, hnamed⟩ := exists_paragraph_escape hstart.1 hstart.2 (quoted source)
  obtain ⟨parts, hparts, hprint⟩ := exists_showsParts files h
  refine ⟨_, ⟨r, named, parts, h, hnamed, hparts, rfl⟩, ?_⟩
  have hdoes : Step.Does files (testReference source) true _ _ :=
    (does_print hnamed).bind ((Step.Does.orFail h).bind (hprint.bind
      ((does_print paragraph_empty).bind (.pure true))))
  simpa using hdoes

theorem yields_printReference (r : Reference) :
    Step.Yields files (printReference r) fun _ => True := by
  unfold printReference
  refine Step.Yields.bind (Step.Yields.print _) fun _ _ => ?_
  refine Step.Yields.bind (Step.Yields.print _) fun _ _ => ?_
  split
  · exact .print _
  · exact .pure trivial

theorem yields_testReference (source : String) : Step.Yields files (testReference source)
    fun good => good = true ↔ ∃ r, Reference.parse source = .ok (.ok r) := by
  unfold testReference
  refine Step.Yields.bind (Step.Yields.print _) fun _ _ => ?_
  refine Step.Yields.bind (Step.Yields.orFail _) fun result hresult => ?_
  cases result with
  | ok r =>
    refine Step.Yields.bind (yields_printReference r) fun _ _ => ?_
    refine Step.Yields.bind (Step.Yields.print _) fun _ _ => ?_
    exact .pure (iff_of_true rfl ⟨r, hresult⟩)
  | error f =>
    refine Step.Yields.bind (Step.Yields.print _) fun _ _ => ?_
    refine Step.Yields.bind (Step.Yields.print _) fun _ _ => ?_
    refine .pure (iff_of_false nofun ?_)
    rintro ⟨r, hr⟩
    rw [hresult] at hr
    cases hr

/-- The parts of the text between commas that are not blank are references. -/
def HoldsReferences (text : String) : Prop :=
  ∀ part ∈ Text.splitOn ',' text.toList, Text.trim part ≠ [] →
    ∃ r, Reference.parse (String.ofList (Text.trim part)) = .ok (.ok r)

theorem holdsReferences_iff {text : String} : HoldsReferences text ↔
    ∀ source ∈ referencesIn text, ∃ r, Reference.parse source = .ok (.ok r) := by
  simp only [HoldsReferences, referencesIn, List.forall_mem_map, List.mem_filter,
    Bool.not_eq_true', List.isEmpty_eq_false_iff, and_imp]

theorem all_eq_true_iff_of_forall₂ {α : Type} {P : α → Prop} {xs : List α} {results : List Bool}
    (h : List.Forall₂ (fun x result => result = true ↔ P x) xs results) :
    results.all id = true ↔ ∀ x ∈ xs, P x := by
  induction h with
  | nil => simp
  | cons hx _ ih =>
    rw [List.all_cons, Bool.and_eq_true, List.forall_mem_cons, ih]
    exact and_congr_left' hx

theorem yields_testReferences (text : String) : Step.Yields files (testReferences text)
    fun good => good = true ↔ HoldsReferences text := by
  unfold testReferences
  refine Step.Yields.bind (Step.Yields.print _) fun _ _ => ?_
  refine Step.Yields.bind (Step.Yields.mapM yields_testReference _) fun results hresults => ?_
  exact .pure ((all_eq_true_iff_of_forall₂ hresults).trans holdsReferences_iff.symm)

theorem exists_reports {text : String} (files : Tree) (h : HoldsReferences text) :
    ∃ reports : List (List String), List.Forall₂ IsReportOn (referencesIn text) reports ∧
      Step.Does files (testReferences text) true
        ("Testing parameterized field reference parsing..." :: "" :: reports.flatten) [] := by
  have hreport : ∀ source ∈ referencesIn text, ∃ report : List String,
      IsReportOn source report ∧ Step.Does files (testReference source) true report [] :=
    fun source hsource => by
      obtain ⟨r, hr⟩ := holdsReferences_iff.mp h source hsource
      exact exists_reportOn files hr
  obtain ⟨reports, hreports⟩ := exists_forall₂ hreport
  refine ⟨reports, hreports.imp fun _ _ h => h.1, ?_⟩
  have hmap : Step.Does files ((referencesIn text).mapM testReference) _ _ [] :=
    Step.Does.mapM (List.forall₂_map_right_iff.mpr (hreports.imp fun _ _ h => h.2) :
      List.Forall₂ _ _ (reports.map fun report => (true, report)))
  rw [List.map_map, List.flatMap_map, List.flatMap_id'] at hmap
  have hdoes : Step.Does files (testReferences text) _ _ _ :=
    (does_print paragraph_testing).bind (hmap.bind (.pure _))
  have hall : (reports.map (Prod.fst ∘ fun report => (true, report))).all id = true := by simp
  rw [hall] at hdoes
  simpa using hdoes

theorem succeeds_testReferences {text : String} (h : HoldsReferences text) :
    Step.Succeeds files (testReferences text) true := by
  obtain ⟨reports, -, hdoes⟩ := exists_reports files h
  exact ⟨_, _, hdoes⟩

end SchemaJoins.Command.Validate
