import SchemaJoins.Proofs.Command.References
import SchemaJoins.Proofs.Files.Path

/-! # The exit code of a validation

A validation ends with exit code zero exactly if all references and all files that it is
asked about are in order. What is good can be shown, so that no text gets in the way of a
good end; what is not good ends in another code, whatever can be shown of it.
-/

namespace SchemaJoins.Command.Validate

open Console Files

variable {files : Tree} {p : Path} {v : Verdict}

section Verdicts

variable {report : Validation.Report} {content : String}

/-- The text has a report, which has no issue or finds no joins. -/
def IsGoodContent (content : String) : Prop :=
  ∃ report, (Validation.checkContent content).result = .ok report ∧
    (report.isValid = true ∨ report.joinsFound = false)

def IsGoodFile (files : Tree) (p : Path) : Prop :=
  ∃ content, files.read p = .ok content ∧ IsGoodContent content

theorem isGoodContent_iff (h : (Validation.checkContent content).result = .ok report) :
    IsGoodContent content ↔ report.isValid = true ∨ report.joinsFound = false := by
  simp only [IsGoodContent, h, Except.ok.injEq, exists_eq_left']

theorem isGoodFile_iff (h : files.read p = .ok content) :
    IsGoodFile files p ↔ IsGoodContent content := by
  simp only [IsGoodFile, h, Except.ok.injEq, exists_eq_left']

theorem not_isGoodFile {f : Fault} (h : files.read p = .error f) : ¬ IsGoodFile files p := by
  rintro ⟨content, hcontent, -⟩
  rw [h] at hcontent
  cases hcontent

theorem yields_printFindings (report : Validation.Report) :
    Step.Yields files (printFindings report) fun _ => True := by
  have hrest : Step.Yields files (do
      Step.print ("  Found " ++ toString report.entries.length ++ " parameterized join(s)")
      report.paths.forM fun path => Step.print ("    - " ++ escape path)) fun _ => True :=
    (Step.Yields.print _).bind fun _ _ => .forM (fun _ => .print _) _
  unfold printFindings
  dsimp only
  split
  · exact (Step.Yields.print _).bind fun _ _ => hrest
  · exact hrest

theorem yields_printIssues (report : Validation.Report) :
    Step.Yields files (printIssues report) fun _ => True :=
  (Step.Yields.forM (fun _ => .print _) _).bind fun _ _ => .forM (fun _ => .print _) _

theorem yields_validateContent (content : String) :
    Step.Yields files (validateContent content) fun v =>
      v.isGood = true ↔ IsGoodContent content := by
  unfold validateContent
  refine Step.Yields.bind (Step.Yields.logged _) fun report hreport => ?_
  rw [isGoodContent_iff hreport]
  split
  · rename_i hfound
    refine Step.Yields.bind (Step.Yields.print _) fun _ _ => ?_
    exact .pure (iff_of_true rfl (.inr (by simpa using hfound)))
  · rename_i hfound
    refine Step.Yields.bind (yields_printFindings report) fun _ _ => ?_
    split
    · rename_i hvalid
      refine Step.Yields.bind (Step.Yields.print _) fun _ _ => ?_
      exact .pure (iff_of_true rfl (.inl hvalid))
    · rename_i hvalid
      refine Step.Yields.bind (yields_printIssues report) fun _ _ => ?_
      exact .pure (iff_of_false nofun (not_or.mpr ⟨hvalid, by simpa using hfound⟩))

theorem yields_validateFile (p : Path) :
    Step.Yields files (validateFile p) fun v => v.isGood = true ↔ IsGoodFile files p := by
  unfold validateFile
  refine Step.Yields.bind (Step.Yields.print _) fun _ _ => ?_
  refine Step.Yields.bind Step.Yields.readFiles fun tree htree => ?_
  subst htree
  cases hread : tree.read p with
  | ok content =>
    rw [isGoodFile_iff hread]
    exact yields_validateContent content
  | error f =>
    dsimp only
    split
    · refine Step.Yields.bind (Step.Yields.print _) fun _ _ => ?_
      exact .pure (iff_of_false nofun (not_isGoodFile hread))
    · exact .fail f

theorem isStyleName_bold : IsStyleName "bold".toList where
  content := ⟨⟨'b', "old".toList, rfl, by decide⟩, by simp [isBracket]⟩
  notClosing := by decide
  noParameter := by decide
  trimmed := by decide

theorem exists_paragraph_bold (s : String) :
    ∃ lines, paragraph ("[bold]" ++ escape s ++ "[/bold]") = .ok lines := by
  refine exists_paragraph ?_
  have hrest : ∀ styles, Renders styles [] := fun _ => .nil
  have hbold : Renders [] _ := renders_styled isStyleName_bold (showsAsText_escape s) hrest
  simpa [String.toList_append] using hbold

theorem notMem_bracket_toString (n : Nat) : '[' ∉ (toString n).toList := by
  rw [Nat.toString_eq_repr, Nat.repr, String.toList_ofList]
  intro h
  have hdigit : '['.isDigit = true := Nat.isDigit_of_mem_toDigits (by decide) (by decide) h
  exact absurd hdigit (by decide)

theorem Verdict.notMem_bracket (v : Verdict) : '[' ∉ v.text.toList := by
  cases v with
  | unreadable => decide
  | withoutJoins => decide
  | valid => decide
  | issues count =>
    rw [Verdict.text, String.toList_append, List.mem_append, not_or]
    exact ⟨notMem_bracket_toString count, by decide⟩

theorem succeeds_printFindings (report : Validation.Report) :
    Step.Succeeds files (printFindings report) () := by
  have hfound : '[' ∉ ("  Found " ++ toString report.entries.length ++
      " parameterized join(s)").toList := by
    simp only [String.toList_append, List.mem_append, not_or]
    exact ⟨⟨by decide, notMem_bracket_toString _⟩, by decide⟩
  have hstart : '[' ∉ "    - ".toList ∧ '\\' ∉ "    - ".toList := by decide
  have hrest : Step.Succeeds files (do
      Step.print ("  Found " ++ toString report.entries.length ++ " parameterized join(s)")
      report.paths.forM fun path => Step.print ("    - " ++ escape path)) () :=
    (Step.Succeeds.print (exists_paragraph (.of_not_bracket hfound))).bind
      (.forM fun path _ => .print (exists_paragraph_escape hstart.1 hstart.2 path))
  unfold printFindings
  dsimp only
  split
  · exact (Step.Succeeds.print ⟨_, paragraph_validSyntax⟩).bind hrest
  · exact hrest

theorem exists_succeeds_validateContent (files : Tree) (h : IsGoodContent content) :
    ∃ v : Verdict, v.isGood = true ∧ Step.Succeeds files (validateContent content) v := by
  obtain ⟨report, hreport, hgood⟩ := h
  have hlogged : Step.Succeeds files (Step.logged (Validation.checkContent content)) report :=
    ⟨_, _, .logged hreport⟩
  cases hfound : report.joinsFound with
  | false =>
    refine ⟨.withoutJoins, rfl, hlogged.bind ?_⟩
    rw [hfound]
    exact (Step.Succeeds.print ⟨_, rfl⟩).bind (.pure _)
  | true =>
    have hvalid : report.isValid = true := hgood.resolve_right (by simp [hfound])
    refine ⟨.valid, rfl, hlogged.bind ?_⟩
    rw [hfound, hvalid]
    exact (succeeds_printFindings report).bind ((Step.Succeeds.print ⟨_, rfl⟩).bind (.pure _))

theorem exists_succeeds_validateFile (h : IsGoodFile files p) :
    ∃ v : Verdict, v.isGood = true ∧ Step.Succeeds files (validateFile p) v := by
  obtain ⟨content, hread, hgood⟩ := h
  obtain ⟨v, hv, hcontent⟩ := exists_succeeds_validateContent files hgood
  refine ⟨v, hv, (Step.Succeeds.print (exists_paragraph_bold p.text)).bind ?_⟩
  refine Step.Succeeds.bind ⟨_, _, .readFiles⟩ ?_
  rw [hread]
  exact hcontent

end Verdicts

section Summaries

variable {summary verdicts : List (String × Verdict)} {name : String} {e : String × Verdict}

def summaryOf (summary verdicts : List (String × Verdict)) : List (String × Verdict) :=
  verdicts.foldl (fun s (name, v) => record s name v) summary

theorem mem_of_mem_record (h : e ∈ record summary name v) : e ∈ summary ∨ e = (name, v) := by
  unfold record at h
  split at h
  · obtain ⟨d, hd, rfl⟩ := List.mem_map.mp h
    split
    · exact .inr rfl
    · exact .inl hd
  · simpa using h

theorem mem_names_record {n : String} :
    n ∈ (record summary name v).map (·.1) ↔ n ∈ summary.map (·.1) ∨ n = name := by
  unfold record
  split
  · rename_i hany
    have hnames : (summary.map fun e => if e.1 == name then (name, v) else e).map (·.1) =
        summary.map (·.1) := by
      rw [List.map_map]
      refine List.map_congr_left fun e _ => ?_
      dsimp only [Function.comp_apply]
      split
      · exact (beq_iff_eq.mp ‹_›).symm
      · rfl
    obtain ⟨e, he, hname⟩ := List.any_eq_true.mp hany
    rw [hnames]
    exact (or_iff_left_of_imp fun h => h ▸ beq_iff_eq.mp hname ▸ List.mem_map_of_mem he).symm
  · simp

theorem mem_of_mem_summaryOf (h : e ∈ summaryOf summary verdicts) : e ∈ summary ∨ e ∈ verdicts := by
  induction verdicts generalizing summary with
  | nil => exact .inl h
  | cons d verdicts ih =>
    have hrest : e ∈ summaryOf (record summary d.1 d.2) verdicts := h
    obtain h | h := ih hrest
    · exact (mem_of_mem_record h).imp_right fun h => List.mem_cons.mpr (.inl h)
    · exact .inr (List.mem_cons_of_mem d h)

theorem mem_names_summaryOf : name ∈ (summaryOf summary verdicts).map (·.1) ↔
    name ∈ summary.map (·.1) ∨ name ∈ verdicts.map (·.1) := by
  induction verdicts generalizing summary with
  | nil => simp [summaryOf]
  | cons d verdicts ih =>
    have hrest : summaryOf summary (d :: verdicts) =
        summaryOf (record summary d.1 d.2) verdicts := rfl
    rw [hrest, ih, mem_names_record, or_assoc, List.map_cons, List.mem_cons]

theorem all_isGood_summaryOf_iff
    (h : ∀ d ∈ verdicts, ∀ e ∈ verdicts, d.1 = e.1 → (d.2.isGood = true ↔ e.2.isGood = true)) :
    (summaryOf [] verdicts).all (·.2.isGood) = true ↔ ∀ e ∈ verdicts, e.2.isGood = true := by
  rw [List.all_eq_true]
  constructor
  · intro hall e he
    have hname : e.1 ∈ (summaryOf [] verdicts).map (·.1) :=
      mem_names_summaryOf.mpr (.inr (List.mem_map_of_mem he))
    obtain ⟨d, hd, hde⟩ := List.mem_map.mp hname
    have hmem := (mem_of_mem_summaryOf hd).resolve_left List.not_mem_nil
    exact (h d hmem e he hde).mp (hall d hd)
  · intro hall e he
    exact hall e ((mem_of_mem_summaryOf he).resolve_left List.not_mem_nil)

end Summaries

section Files

variable {paths : List Path} {verdicts : List (String × Verdict)}

structure IsVerdictOn (files : Tree) (p : Path) (e : String × Verdict) : Prop where
  name : e.1 = p.text
  isGood : e.2.isGood = true ↔ IsGoodFile files p

/-- Names that are alike name one file, so that a name that is given again has a verdict as
good as before. -/
theorem all_isGood_iff (hproper : ∀ p ∈ paths, p.IsProper)
    (h : List.Forall₂ (IsVerdictOn files) paths verdicts) :
    (summaryOf [] verdicts).all (·.2.isGood) = true ↔ ∀ p ∈ paths, IsGoodFile files p := by
  have halike : ∀ d ∈ verdicts, ∀ e ∈ verdicts, d.1 = e.1 →
      (d.2.isGood = true ↔ e.2.isGood = true) := by
    intro d hd e he hname
    obtain ⟨p, hp, hdp⟩ := exists_of_mem_right h hd
    obtain ⟨q, hq, heq⟩ := exists_of_mem_right h he
    -- both may be written differently in the arguments; the summary knows them by their text
    have htext : p.text = q.text := by rw [← hdp.name, hname, heq.name]
    obtain rfl := Path.text_injective (hproper p hp) (hproper q hq) htext
    exact hdp.isGood.trans heq.isGood.symm
  rw [all_isGood_summaryOf_iff halike]
  constructor
  · intro hall p hp
    obtain ⟨e, he, hep⟩ := exists_of_mem_left h hp
    exact hep.isGood.mp (hall e he)
  · intro hall e he
    obtain ⟨p, hp, hep⟩ := exists_of_mem_right h he
    exact hep.isGood.mpr (hall p hp)

theorem yields_validateFiles (hproper : ∀ p ∈ paths, p.IsProper) :
    Step.Yields files (validateFiles paths)
      fun good => good = true ↔ ∀ p ∈ paths, IsGoodFile files p := by
  have hverdict (p : Path) :
      Step.Yields files (do return (p.text, ← validateFile p)) (IsVerdictOn files p) :=
    (yields_validateFile p).bind fun _ hv => .pure ⟨rfl, hv⟩
  unfold validateFiles
  refine Step.Yields.bind (Step.Yields.print _) fun _ _ => ?_
  refine Step.Yields.bind (Step.Yields.mapM hverdict paths) fun verdicts hverdicts => ?_
  refine Step.Yields.bind (Step.Yields.printTable _) fun _ _ => .pure ?_
  exact all_isGood_iff hproper hverdicts

theorem exists_render_summaryTable {summary : List (String × Verdict)}
    (h : ∀ e ∈ summary, '[' ∉ e.1.toList) :
    ∃ lines, (summaryTable summary).render = .ok lines := by
  have hheader : ∀ header ∈ ["File", "Result"], '[' ∉ header.toList := by decide
  have htitle : '[' ∉ "Validation Summary".toList := by decide
  refine exists_render_table (.of_not_bracket htitle) (fun header hmem => ?_) ?_
  · exact .of_not_bracket (hheader header hmem)
  · intro row hrow cell hcell
    obtain ⟨e, he, rfl⟩ := List.mem_map.mp hrow
    obtain rfl | rfl : cell = e.1 ∨ cell = e.2.text := by simpa using hcell
    · exact .of_not_bracket (h e he)
    · exact .of_not_bracket e.2.notMem_bracket

theorem succeeds_validateFiles (hproper : ∀ p ∈ paths, p.IsProper)
    (hgood : ∀ p ∈ paths, IsGoodFile files p) (hplain : ∀ p ∈ paths, '[' ∉ p.text.toList) :
    Step.Succeeds files (validateFiles paths) true := by
  have hverdict : ∀ p ∈ paths, ∃ e : String × Verdict,
      IsVerdictOn files p e ∧ Step.Succeeds files (do return (p.text, ← validateFile p)) e := by
    intro p hp
    obtain ⟨v, hv, hsucceeds⟩ := exists_succeeds_validateFile (hgood p hp)
    exact ⟨(p.text, v), ⟨rfl, iff_of_true hv (hgood p hp)⟩, hsucceeds.bind (.pure _)⟩
  obtain ⟨verdicts, hverdicts⟩ := exists_forall₂ hverdict
  have hall : (summaryOf [] verdicts).all (·.2.isGood) = true :=
    (all_isGood_iff hproper (hverdicts.imp fun _ _ h => h.1)).mpr hgood
  obtain ⟨lines, hlines⟩ : ∃ lines, (summaryTable (summaryOf [] verdicts)).render = .ok lines := by
    refine exists_render_summaryTable fun e he => ?_
    obtain ⟨p, hp, hep, -⟩ := exists_of_mem_right hverdicts
      ((mem_of_mem_summaryOf he).resolve_left List.not_mem_nil)
    exact hep.name ▸ hplain p hp
  have hdone : Step.Succeeds files (do
      Step.printTable (summaryTable (summaryOf [] verdicts))
      return (summaryOf [] verdicts).all (·.2.isGood)) true :=
    Step.Succeeds.bind ⟨_, _, .writeRendered hlines⟩ (hall ▸ .pure _)
  exact (Step.Succeeds.print ⟨_, rfl⟩).bind
    ((Step.Succeeds.mapM (hverdicts.imp fun _ _ h => h.2)).bind hdone)

end Files

section Runs

structure Request.IsGood (files : Tree) (r : Request) : Prop where
  references : ∀ text, r.references = some text → HoldsReferences text
  files : ∀ p ∈ r.files, IsGoodFile files p

def testGiven (references : Option String) : Step Bool :=
  match references with
  | some text => testReferences text
  | none => pure true

def validateGiven (paths : List Path) : Step Bool :=
  if paths.isEmpty then pure true else validateFiles paths

/-- Both findings are made in any case, and the run fails if one of them is bad. -/
theorem run_eq (r : Request) : run r = (do
    let referencesGood ← testGiven r.references
    let filesGood ← validateGiven r.files
    if !(referencesGood && filesGood) then Step.exit 1) := by
  unfold run testGiven validateGiven
  cases r.references with
  | none => split <;> rfl
  | some text => split <;> rfl

theorem yields_testGiven (references : Option String) : Step.Yields files (testGiven references)
    fun good => good = true ↔ ∀ text, references = some text → HoldsReferences text := by
  cases references with
  | none => exact .pure (iff_of_true rfl nofun)
  | some text => simpa [testGiven] using yields_testReferences text

theorem yields_validateGiven {paths : List Path} (hproper : ∀ p ∈ paths, p.IsProper) :
    Step.Yields files (validateGiven paths)
      fun good => good = true ↔ ∀ p ∈ paths, IsGoodFile files p := by
  unfold validateGiven
  split
  · rename_i hempty
    obtain rfl := List.isEmpty_iff.mp hempty
    exact .pure (iff_of_true rfl nofun)
  · exact yields_validateFiles hproper

theorem succeeds_testGiven {references : Option String}
    (h : ∀ text, references = some text → HoldsReferences text) :
    Step.Succeeds files (testGiven references) true := by
  cases references with
  | none => exact .pure true
  | some text => exact succeeds_testReferences (h text rfl)

theorem succeeds_validateGiven {paths : List Path} (hproper : ∀ p ∈ paths, p.IsProper)
    (hgood : ∀ p ∈ paths, IsGoodFile files p) (hplain : ∀ p ∈ paths, '[' ∉ p.text.toList) :
    Step.Succeeds files (validateGiven paths) true := by
  unfold validateGiven
  split
  · exact .pure true
  · exact succeeds_validateFiles hproper hgood hplain

variable {r : Request}

theorem yields_run (hproper : ∀ p ∈ r.files, p.IsProper) :
    Step.Yields files (run r) fun _ => r.IsGood files := by
  rw [run_eq]
  refine Step.Yields.bind (yields_testGiven r.references) fun referencesGood hreferences => ?_
  refine Step.Yields.bind (yields_validateGiven hproper) fun filesGood hfiles => ?_
  split
  · exact .exit Nat.one_ne_zero
  · rename_i hboth
    obtain ⟨hr, hf⟩ : referencesGood = true ∧ filesGood = true := by simpa using hboth
    exact .pure ⟨hreferences.mp hr, hfiles.mp hf⟩

theorem succeeds_run (hproper : ∀ p ∈ r.files, p.IsProper)
    (hplain : ∀ p ∈ r.files, '[' ∉ p.text.toList) (h : r.IsGood files) :
    Step.Succeeds files (run r) () := by
  rw [run_eq]
  refine Step.Succeeds.bind (succeeds_testGiven h.references) ?_
  exact (succeeds_validateGiven hproper h.files hplain).bind (.pure ())

theorem exitCode_run_eq_zero_iff (hproper : ∀ p ∈ r.files, p.IsProper)
    (hplain : ∀ p ∈ r.files, '[' ∉ p.text.toList) :
    ((run r).run files).exitCode = 0 ↔ r.IsGood files := by
  refine ⟨(yields_run hproper).of_exitCode_eq_zero, fun h => ?_⟩
  obtain ⟨lines, warnings, hdoes⟩ := succeeds_run hproper hplain h
  rw [hdoes.run_eq]

theorem isGood_request_iff {references : Option String} {names : List String} :
    Request.IsGood files ⟨names.map .ofText, references.filter (!·.isEmpty)⟩ ↔
      (∀ text, references = some text → HoldsReferences text) ∧
        ∀ name ∈ names, IsGoodFile files (.ofText name) := by
  have hempty : HoldsReferences "" := holdsReferences_iff.mpr nofun
  constructor
  · intro h
    refine ⟨?_, List.forall_mem_map.mp h.files⟩
    rintro text rfl
    by_cases htext : text = ""
    · rwa [htext]
    · exact h.references text (by simp [htext])
  · rintro ⟨hreferences, hfiles⟩
    refine ⟨fun text htext => ?_, List.forall_mem_map.mpr hfiles⟩
    exact hreferences text (Option.eq_some_of_filter_eq_some htext)

/-- A validation that is asked about something ends with exit code zero exactly if all
references and all files are good, in whatever order and however often they are given. -/
theorem exitCode_validate_eq_zero_iff {references : Option String}
    {option before after : List String} (hgives : Gives references option)
    (hnames : ∀ name ∈ before ++ after, IsName name ∧ '[' ∉ name.toList)
    (hsome : before ++ after ≠ [] ∨ ∃ text, references = some text ∧ text ≠ "") :
    (outcome ("validate" :: (before ++ (option ++ after))) files).exitCode = 0 ↔
      (∀ text, references = some text → HoldsReferences text) ∧
        ∀ name ∈ before ++ after, IsGoodFile files (.ofText name) := by
  have hproper : ∀ p ∈ (before ++ after).map Path.ofText, p.IsProper :=
    List.forall_mem_map.mpr fun name _ => Path.isProper_ofText name
  have hplain : ∀ p ∈ (before ++ after).map Path.ofText, '[' ∉ p.text.toList := by
    refine List.forall_mem_map.mpr fun name hname hbracket => ?_
    obtain h | h | h := Path.mem_text hbracket
    · exact absurd h (by decide)
    · exact absurd h (by decide)
    · exact (hnames name hname).2 h
  rw [outcome_validate hgives (fun name hname => (hnames name hname).1) hsome,
    exitCode_run_eq_zero_iff hproper hplain, isGood_request_iff]

def loneFile : Tree := ⟨[(["a.py"], .file "")]⟩

theorem isGoodFile_loneFile : IsGoodFile loneFile (.ofText "a.py") :=
  ⟨"", by rfl, .absent, by rfl, .inr rfl⟩

theorem not_isGoodFile_loneFile : ¬ IsGoodFile loneFile (.ofText "b.py") := by
  rintro ⟨content, hread, -⟩
  cases hread

theorem holdsReferences_total : HoldsReferences "orders.total" := by
  have hsources : referencesIn "orders.total" = ["orders.total"] := by rfl
  rw [holdsReferences_iff, hsources]
  refine List.forall_mem_singleton.mpr ⟨⟨"orders", "total", []⟩, ?_⟩
  rfl

/-- A file that cannot be read is not masked by good ones around it. -/
theorem exitCode_validate_loneFile :
    (outcome ["validate", "a.py", "--test_references", "orders.total", "a.py"]
      loneFile).exitCode = 0 ∧
    (outcome ["validate", "a.py", "--test_references", "orders.total", "b.py", "a.py"]
      loneFile).exitCode ≠ 0 := by
  have hgives : Gives (some "orders.total") ["--test_references", "orders.total"] := .apart _
  have hgood : (outcome ("validate" :: (["a.py"] ++
      (["--test_references", "orders.total"] ++ ["a.py"]))) loneFile).exitCode = 0 ↔ _ :=
    exitCode_validate_eq_zero_iff hgives (by decide) (.inl (List.cons_ne_nil _ _))
  have hbad : (outcome ("validate" :: (["a.py"] ++
      (["--test_references", "orders.total"] ++ ["b.py", "a.py"]))) loneFile).exitCode = 0 ↔ _ :=
    exitCode_validate_eq_zero_iff hgives (by decide) (.inl (List.cons_ne_nil _ _))
  constructor
  · refine hgood.mpr ⟨fun text htext => Option.some.inj htext ▸ holdsReferences_total, ?_⟩
    intro name hname
    obtain rfl : name = "a.py" := by simpa using hname
    exact isGoodFile_loneFile
  · intro hzero
    exact not_isGoodFile_loneFile ((hbad.mp hzero).2 "b.py" (by decide))

end Runs

end SchemaJoins.Command.Validate
