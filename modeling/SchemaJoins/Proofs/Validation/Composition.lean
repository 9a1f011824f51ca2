import Mathlib.Data.List.Forall2
import SchemaJoins.Proofs.Validation.Flags
import SchemaJoins.Validation.Content

/-! # Reports on parts of a mapping

Joins that are nested in an outer join have the report that they have by themselves, except
that the name of the outer join stands in front of every path. The report on a mapping is
made up of the reports on its parts.
-/

namespace SchemaJoins

/-- The declaration as it is seen from outside an outer join. -/
def Declaration.under (outer : String) (decl : Declaration) : Declaration :=
  { decl with path := outer ++ "." ++ decl.path }

namespace Validation

def Detail.under (outer : String) (d : Detail) : Detail :=
  { d with path := outer ++ "." ++ d.path }

def Entry.under (outer : String) (e : Entry) : Entry :=
  ⟨e.detail.under outer, e.declaration.map (Declaration.under outer)⟩

/-- The messages differ in the path that they start with. -/
def SaysUnder (outer m m' : String) : Prop :=
  ∃ about, m = "Join '" ++ about ∧ m' = "Join '" ++ (outer ++ "." ++ about)

structure Issue.IsUnder (outer : String) (i i' : Issue) : Prop where
  category : i'.category = i.category
  message : SaysUnder outer i.message i'.message

variable {outer : String} {d : Detail} {decl : Declaration} {e : Entry}
  {joins joins' : List (Value × Value)}

section Issues

variable {path : String}

theorem saysUnder_append (about rest : String) :
    SaysUnder outer ("Join '" ++ about ++ rest) ("Join '" ++ (outer ++ "." ++ about) ++ rest) :=
  ⟨about ++ rest, by rw [String.append_assoc], by simp only [String.append_assoc]⟩

theorem SaysUnder.append {m m' : String} (h : SaysUnder outer m m') (rest : String) :
    SaysUnder outer (m ++ rest) (m' ++ rest) := by
  obtain ⟨about, rfl, rfl⟩ := h
  exact ⟨about ++ rest, by rw [String.append_assoc], by simp only [String.append_assoc]⟩

theorem forall₂_unless {c : Bool} {m m' : String} (h : SaysUnder outer m m') :
    List.Forall₂ (SaysUnder outer) (if c then [] else [m]) (if c then [] else [m']) := by
  cases c
  · exact .cons h .nil
  · exact .nil

theorem parameterIssues_under (position : Nat) (v : Value) :
    List.Forall₂ (SaysUnder outer) (parameterIssues path position v)
      (parameterIssues (outer ++ "." ++ path) position v) := by
  have habout : SaysUnder outer ("Join '" ++ path ++ "' parameter ")
      ("Join '" ++ (outer ++ "." ++ path) ++ "' parameter ") := saysUnder_append _ _
  unfold parameterIssues
  split
  · refine List.rel_append (List.rel_append ?_ ?_) ?_
    · exact forall₂_unless ((habout.append _).append _)
    · exact forall₂_unless (((habout.append _).append _).append _)
    · exact forall₂_unless ((habout.append _).append _)
  · exact .cons ((habout.append _).append _) .nil

theorem fieldIssues_under (name config : Value) :
    List.Forall₂ (SaysUnder outer) (fieldIssues path name config)
      (fieldIssues (outer ++ "." ++ path) name config) := by
  have habout : SaysUnder outer ("Join '" ++ path ++ "' field ")
      ("Join '" ++ (outer ++ "." ++ path) ++ "' field ") := saysUnder_append _ _
  unfold fieldIssues
  split
  · exact forall₂_unless (((habout.append _).append _).append _)
  · exact .cons ((habout.append _).append _) .nil

theorem forall₂_isUnder {category : Category} {ms ms' : List String}
    (h : List.Forall₂ (SaysUnder outer) ms ms') :
    List.Forall₂ (Issue.IsUnder outer) (ms.map (⟨category, ·⟩)) (ms'.map (⟨category, ·⟩)) := by
  rw [List.forall₂_map_left_iff, List.forall₂_map_right_iff]
  exact h.imp fun _ _ hsays => ⟨rfl, hsays⟩

theorem forall₂_flatMap_same {α β : Type} {R : β → β → Prop} {f g : α → List β} (xs : List α)
    (h : ∀ x, List.Forall₂ R (f x) (g x)) : List.Forall₂ R (xs.flatMap f) (xs.flatMap g) := by
  refine List.rel_flatMap (R := Eq) (List.forall₂_refl xs) ?_
  rintro x _ rfl
  exact h x

theorem forall₂_map_same {α β : Type} {R : β → β → Prop} {f g : α → β} (xs : List α)
    (h : ∀ x, R (f x) (g x)) : List.Forall₂ R (xs.map f) (xs.map g) := by
  rw [List.forall₂_map_left_iff, List.forall₂_map_right_iff, List.forall₂_same]
  exact fun x _ => h x

theorem parametersIssues_under : List.Forall₂ (Issue.IsUnder outer) (parametersIssues d)
    (parametersIssues (d.under outer)) := by
  refine forall₂_isUnder ?_
  simp only [Detail.under]
  split
  · exact .cons (saysUnder_append _ _) .nil
  · refine List.rel_append (forall₂_flatMap_same _ fun (v, i) => parameterIssues_under i v) ?_
    exact forall₂_map_same _ fun name => ((saysUnder_append _ _).append _).append _

theorem fieldsIssues_under : List.Forall₂ (Issue.IsUnder outer) (fieldsIssues d)
    (fieldsIssues (d.under outer)) := by
  refine forall₂_isUnder ?_
  simp only [Detail.under]
  split
  · exact .cons (saysUnder_append _ _) .nil
  · exact forall₂_flatMap_same _ fun (name, config) => fieldIssues_under name config
  · exact .cons (saysUnder_append _ _) .nil

theorem conditionIssues_under : List.Forall₂ (Issue.IsUnder outer) (conditionIssues d)
    (conditionIssues (d.under outer)) := by
  refine forall₂_isUnder ?_
  simp only [Detail.under]
  split
  · exact .nil
  · exact forall₂_map_same _ fun p => (saysUnder_append _ _).append _
  · exact .cons (saysUnder_append _ _) .nil

/-- What is wrong with a join does not depend on where it stands. -/
theorem detailIssues_under : List.Forall₂ (Issue.IsUnder outer) (detailIssues d)
    (detailIssues (d.under outer)) :=
  List.rel_append (List.rel_append parametersIssues_under fieldsIssues_under)
    conditionIssues_under

theorem isEmpty_detailIssues_under :
    (detailIssues (d.under outer)).isEmpty = (detailIssues d).isEmpty := by
  have hlength : (detailIssues d).length = (detailIssues (d.under outer)).length :=
    detailIssues_under.length_eq
  rw [Bool.eq_iff_iff, List.isEmpty_iff_length_eq_zero, List.isEmpty_iff_length_eq_zero,
    hlength]

end Issues

section Entries

theorem declare_under (h : declare d = .ok decl) :
    declare (d.under outer) = .ok (decl.under outer) := by
  obtain ⟨parameters, hparameters, h⟩ := bind_eq_ok.mp h
  obtain ⟨entries, hentries, h⟩ := bind_eq_ok.mp h
  obtain ⟨fields, hfields, h⟩ := bind_eq_ok.mp h
  obtain ⟨rfl, hnodup, hnames⟩ := of_check h
  refine bind_eq_ok.mpr ⟨parameters, hparameters, bind_eq_ok.mpr ⟨entries, hentries,
    bind_eq_ok.mpr ⟨fields, hfields, ?_⟩⟩⟩
  exact check_eq_ok hnodup hnames

theorem entry_under (h : entry d = .ok e) : entry (d.under outer) = .ok (e.under outer) := by
  unfold entry at h ⊢
  rw [isEmpty_detailIssues_under]
  split at h
  · rename_i hclean
    obtain ⟨decl, hdecl, hlast⟩ := bind_eq_ok.mp h
    cases hlast
    rw [if_pos hclean, declare_under hdecl]
    rfl
  · rename_i hissues
    cases h
    rw [if_neg hissues]
    rfl

end Entries

section Walk

structure Findings.IsUnder (outer : String) (f f' : Findings) : Prop where
  details : f'.details = f.details.map (Detail.under outer)
  issues : List.Forall₂ (Issue.IsUnder outer) f.issues f'.issues

theorem Findings.isUnder_empty : Findings.IsUnder outer .empty .empty := ⟨rfl, .nil⟩

theorem Findings.IsUnder.append {f f' g g' : Findings} (hf : f.IsUnder outer f')
    (hg : g.IsUnder outer g') : (f ++ g).IsUnder outer (f' ++ g') := by
  constructor
  · simp only [Findings.append_def, hf.details, hg.details, List.map_append]
  · exact List.rel_append hf.issues hg.issues

variable {path : List String}

theorem pathText_cons (h : path ≠ []) :
    pathText (outer :: path) = outer ++ "." ++ pathText path := by
  rw [← String.toList_inj]
  simp only [pathText, String.toList_intercalate, String.toList_append, List.map_cons]
  rw [List.intercalate_cons_of_ne_nil (by simpa using h)]

theorem isUnder_issue (category : Category) (h : path ≠ []) (rest : String) :
    (Findings.issue category ("Join '" ++ pathText path ++ rest)).IsUnder outer
      (.issue category ("Join '" ++ pathText (outer :: path) ++ rest)) := by
  rw [pathText_cons h]
  exact ⟨rfl, .cons ⟨rfl, saysUnder_append _ _⟩ .nil⟩

theorem isUnder_detail? (name : String) (h : path ≠ []) (config : List (Value × Value)) :
    (⟨(detail? name path config).toList, []⟩ : Findings).IsUnder outer
      ⟨(detail? name (outer :: path) config).toList, []⟩ := by
  refine ⟨?_, .nil⟩
  unfold detail?
  rw [pathText_cons h]
  cases Value.find? config (.text "parameters") <;> rfl

mutual

theorem isUnder_collect (path : List String) : (joins : List (Value × Value)) →
    (collect path joins).IsUnder outer (collect (outer :: path) joins)
  | [] => by
    rw [collect, collect]
    exact Findings.isUnder_empty
  | (name, config) :: rest => by
    rw [collect, collect]
    have hpath : path ++ [joinName name] ≠ [] := by simp
    exact (isUnder_collectJoin (joinName name) hpath config).append (isUnder_collect path rest)

theorem isUnder_collectJoin {path : List String} (name : String) (h : path ≠ []) :
    (config : Value) →
    (collectJoin name path config).IsUnder outer (collectJoin name (outer :: path) config)
  | .map config => by
    rw [collectJoin, collectJoin]
    exact (isUnder_detail? name h config).append (isUnder_collectNested h config)
  | .null | .bool _ | .int _ | .real _ | .text _ | .list _ | .tuple _ | .set _ | .bytes _
  | .date _ | .moment _ => isUnder_issue .shape h _

theorem isUnder_collectNested {path : List String} (h : path ≠ []) :
    (config : List (Value × Value)) →
    (collectNested path config).IsUnder outer (collectNested (outer :: path) config)
  | [] => by
    rw [collectNested, collectNested]
    exact Findings.isUnder_empty
  | (key, nested) :: rest => by
    rw [collectNested.eq_def, collectNested.eq_def (outer :: path)]
    dsimp only
    split
    · split
      · rename_i joins
        exact isUnder_collect path joins
      · exact isUnder_issue .shape h _
    · exact isUnder_collectNested h rest

end

end Walk

section Reports

def Report.issuesOf (r : Report) (c : Category) : List Issue := r.issues.filter (·.category = c)

/-- A mapping as the nested joins of a join without parameters. -/
def nestedIn (outer : String) (joins : List (Value × Value)) : List (Value × Value) :=
  [(.text outer, .map [(.text "joins", .map joins)])]

/-- The second report is the first one as it is seen from outside an outer join. -/
structure Report.IsUnder (outer : String) (inner whole : Report) : Prop where
  entries : whole.entries = inner.entries.map (Entry.under outer)
  issues : List.Forall₂ (Issue.IsUnder outer) inner.issues whole.issues
  length_issuesOf : ∀ c, (whole.issuesOf c).length = (inner.issuesOf c).length
  holds : ∀ c, whole.holds c = inner.holds c
  isValid : whole.isValid = inner.isValid

/-- The report has what the two reports have together, and each flag only if both have it. -/
structure Report.IsJoined (first second whole : Report) : Prop where
  entries : whole.entries = first.entries ++ second.entries
  paths : whole.paths = first.paths ++ second.paths
  issues : whole.issues.Perm (first.issues ++ second.issues)
  issuesOf : ∀ c, whole.issuesOf c = first.issuesOf c ++ second.issuesOf c
  holds : ∀ c, whole.holds c = (first.holds c && second.holds c)
  isValid : whole.isValid = (first.isValid && second.isValid)

variable {r r' inner first second whole : Report}

theorem holds_eq_isEmpty (c : Category) : r.holds c = (r.issuesOf c).isEmpty := by
  rw [Bool.eq_iff_iff, Report.holds_iff, List.isEmpty_iff, Report.issuesOf,
    List.filter_eq_nil_iff]
  simp

theorem isValid_eq_of_holds (h : ∀ c, r.holds c = r'.holds c) : r.isValid = r'.isValid := by
  rw [Bool.eq_iff_iff, Report.isValid_iff, Report.isValid_iff]
  exact forall_congr' fun c => by rw [h c]

def Findings.report (f : Findings) (entries : List Entry) : Report :=
  ⟨entries, f.details.flatMap detailIssues ++ f.issues, true⟩

theorem check_joins_eq_ok : check joins = .ok r ↔
    ∃ entries, (collect [] joins).details.mapM entry = .ok entries ∧
      r = (collect [] joins).report entries := by
  rw [check, bind_eq_ok]
  refine exists_congr fun entries => and_congr_right' ?_
  constructor
  · rintro ⟨⟩
    rfl
  · rintro rfl
    rfl

section Nested

theorem isUnder_nestedIn (outer : String) (joins : List (Value × Value)) :
    (collect [] joins).IsUnder outer (collect [] (nestedIn outer joins)) := by
  have hnested : collect [] (nestedIn outer joins) = collect [outer] joins := by
    simp [nestedIn, collect, collectJoin, collectNested, detail?, Value.find?, Value.sameKey,
      joinName, Findings.append_def, Findings.empty]
  rw [hnested]
  exact isUnder_collect [] joins

theorem length_filter_category {is is' : List Issue} (c : Category)
    (h : List.Forall₂ (Issue.IsUnder outer) is is') :
    (is'.filter (·.category = c)).length = (is.filter (·.category = c)).length := by
  induction h with
  | nil => rfl
  | cons hi _ ih =>
    rw [List.filter_cons, List.filter_cons, hi.category]
    split <;> simp [ih]

theorem isUnder_report {f f' : Findings} (h : f.IsUnder outer f') (entries : List Entry) :
    (f.report entries).IsUnder outer (f'.report (entries.map (Entry.under outer))) := by
  have hissues : List.Forall₂ (Issue.IsUnder outer) (f.report entries).issues
      (f'.report (entries.map (Entry.under outer))).issues := by
    refine List.rel_append ?_ h.issues
    rw [h.details, List.flatMap_map]
    exact forall₂_flatMap_same _ fun d => detailIssues_under
  have hlength (c : Category) : ((f'.report (entries.map (Entry.under outer))).issuesOf c).length =
      ((f.report entries).issuesOf c).length := length_filter_category c hissues
  have hholds (c : Category) : (f'.report (entries.map (Entry.under outer))).holds c =
      (f.report entries).holds c := by
    rw [holds_eq_isEmpty, holds_eq_isEmpty, Bool.eq_iff_iff, List.isEmpty_iff_length_eq_zero,
      List.isEmpty_iff_length_eq_zero, hlength]
  exact ⟨rfl, hissues, hlength, hholds, isValid_eq_of_holds hholds⟩

theorem exists_isUnder (outer : String) (joins : List (Value × Value)) :
    ∃ inner whole, check joins = .ok inner ∧ check (nestedIn outer joins) = .ok whole ∧
      inner.IsUnder outer whole := by
  obtain ⟨found, hinner⟩ := exists_check joins
  obtain ⟨_, hentries, he⟩ := check_joins_eq_ok.mp hinner
  cases he
  have hunder := isUnder_nestedIn outer joins
  have hmapped : (collect [] (nestedIn outer joins)).details.mapM entry =
      .ok (found.map (Entry.under outer)) := by
    rw [hunder.details, mapM_eq_ok, List.forall₂_map_left_iff, List.forall₂_map_right_iff]
    exact (mapM_eq_ok.mp hentries).imp fun _ _ => entry_under
  exact ⟨_, _, hinner, check_joins_eq_ok.mpr ⟨_, hmapped, rfl⟩, isUnder_report hunder found⟩

end Nested

section Joined

theorem collect_append (path : List String) (joins joins' : List (Value × Value)) :
    collect path (joins ++ joins') = collect path joins ++ collect path joins' := by
  induction joins with
  | nil => rfl
  | cons e joins ih =>
    obtain ⟨name, config⟩ := e
    rw [List.cons_append, collect, collect, ih]
    simp only [Findings.append_def, List.append_assoc]

theorem filter_detailIssues_shape (ds : List Detail) :
    (ds.flatMap detailIssues).filter (·.category = .shape) = [] := by
  rw [List.filter_eq_nil_iff, List.forall_mem_flatMap]
  intro d _ i hi
  have hne := forall_detailIssues (c := .shape) |>.mpr ⟨nofun, nofun, nofun⟩ i hi
  simpa using hne

theorem filter_issues_of_shape {f : Findings} (hf : ∀ i ∈ f.issues, i.category = .shape)
    {c : Category} (hc : c ≠ .shape) : f.issues.filter (·.category = c) = [] := by
  rw [List.filter_eq_nil_iff]
  intro i hi
  simpa [hf i hi] using hc.symm

theorem isJoined_report {f g : Findings} (hf : ∀ i ∈ f.issues, i.category = .shape)
    (hg : ∀ i ∈ g.issues, i.category = .shape) (entries entries' : List Entry) :
    (f.report entries).IsJoined (g.report entries') ((f ++ g).report (entries ++ entries')) := by
  have hissuesOf (c : Category) : ((f ++ g).report (entries ++ entries')).issuesOf c =
      (f.report entries).issuesOf c ++ (g.report entries').issuesOf c := by
    simp only [Report.issuesOf, Findings.report, Findings.append_def, List.flatMap_append,
      List.filter_append]
    -- a category is either that of the walk or one of the joins, so that one kind is left
    by_cases hc : c = .shape
    · subst hc
      simp only [filter_detailIssues_shape, List.nil_append]
    · simp only [filter_issues_of_shape hf hc, filter_issues_of_shape hg hc, List.append_nil]
  have hholds (c : Category) : ((f ++ g).report (entries ++ entries')).holds c =
      ((f.report entries).holds c && (g.report entries').holds c) := by
    rw [Bool.eq_iff_iff, Bool.and_eq_true]
    simp only [holds_eq_isEmpty, List.isEmpty_iff, hissuesOf, List.append_eq_nil_iff]
  refine ⟨rfl, List.map_append, ?_, hissuesOf, hholds, ?_⟩
  · simp only [Findings.report, Findings.append_def, List.flatMap_append, List.append_assoc]
    refine List.Perm.append_left _ ?_
    rw [← List.append_assoc, ← List.append_assoc]
    exact List.Perm.append_right _ List.perm_append_comm
  · rw [Bool.eq_iff_iff, Bool.and_eq_true]
    simp only [Report.isValid_iff, hholds, Bool.and_eq_true, forall_and]

theorem exists_isJoined (joins joins' : List (Value × Value)) :
    ∃ first second whole, check joins = .ok first ∧ check joins' = .ok second ∧
      check (joins ++ joins') = .ok whole ∧ first.IsJoined second whole := by
  obtain ⟨found, hfirst⟩ := exists_check joins
  obtain ⟨found', hsecond⟩ := exists_check joins'
  obtain ⟨_, hentries, he⟩ := check_joins_eq_ok.mp hfirst
  obtain ⟨_, hentries', he'⟩ := check_joins_eq_ok.mp hsecond
  cases he
  cases he'
  have hmapped : (collect [] joins ++ collect [] joins').details.mapM entry =
      .ok (found ++ found') :=
    mapM_eq_ok.mpr (List.rel_append (mapM_eq_ok.mp hentries) (mapM_eq_ok.mp hentries'))
  rw [← collect_append] at hmapped
  refine ⟨_, _, _, hfirst, hsecond, check_joins_eq_ok.mpr ⟨_, hmapped, rfl⟩, ?_⟩
  rw [collect_append]
  exact isJoined_report (fun _ => category_of_mem_collect) (fun _ => category_of_mem_collect)
    found found'

end Joined

section Shown

theorem shownOfDetail_under : shownOfDetail (d.under outer) = shownOfDetail d := by
  unfold shownOfDetail
  rw [isEmpty_detailIssues_under]
  rfl

theorem all_isWritable_nestedIn : (shownInReport (nestedIn outer joins)).all Value.isWritable =
    (shownInReport joins).all Value.isWritable := by
  have hnames : joinNames (nestedIn outer joins) = .text outer :: joinNames joins := by
    simp [nestedIn, joinNames, namesWithin, nestedNames, Value.sameKey]
  have hshown : (collect [] (nestedIn outer joins)).details.flatMap shownOfDetail =
      (collect [] joins).details.flatMap shownOfDetail := by
    rw [(isUnder_nestedIn outer joins).details, List.flatMap_map]
    exact List.flatMap_congr fun d _ => shownOfDetail_under
  rw [shownInReport, shownInReport, hnames, hshown]
  rfl

theorem joinNames_append : joinNames (joins ++ joins') = joinNames joins ++ joinNames joins' := by
  induction joins with
  | nil => rfl
  | cons e joins ih =>
    obtain ⟨name, config⟩ := e
    rw [List.cons_append, joinNames, joinNames, ih, List.cons_append, List.append_assoc]

theorem all_isWritable_append :
    (shownInReport (joins ++ joins')).all Value.isWritable =
      ((shownInReport joins).all Value.isWritable &&
        (shownInReport joins').all Value.isWritable) := by
  simp only [shownInReport, joinNames_append, collect_append, Findings.append_def,
    List.flatMap_append, List.all_append]
  ac_rfl

end Shown

/-- Nesting joins in another join changes their report in nothing but the name in front of
each path, and the report on a mapping is made up of the reports on its parts. What a report
would show of joins can be written wherever they stand, and in a mapping if it can in its
parts. -/
theorem check_composes :
    (∀ (outer : String) (joins : List (Value × Value)), ∃ inner whole,
      check joins = .ok inner ∧ check (nestedIn outer joins) = .ok whole ∧
      inner.IsUnder outer whole ∧
      (shownInReport (nestedIn outer joins)).all Value.isWritable =
        (shownInReport joins).all Value.isWritable) ∧
    ∀ joins joins' : List (Value × Value), ∃ first second whole,
      check joins = .ok first ∧ check joins' = .ok second ∧
      check (joins ++ joins') = .ok whole ∧ first.IsJoined second whole ∧
      (shownInReport (joins ++ joins')).all Value.isWritable =
        ((shownInReport joins).all Value.isWritable &&
          (shownInReport joins').all Value.isWritable) := by
  constructor
  · intro outer joins
    obtain ⟨inner, whole, hinner, hwhole, hunder⟩ := exists_isUnder outer joins
    exact ⟨inner, whole, hinner, hwhole, hunder, all_isWritable_nestedIn⟩
  · intro joins joins'
    obtain ⟨first, second, whole, hfirst, hsecond, hwhole, hjoined⟩ := exists_isJoined joins joins'
    exact ⟨first, second, whole, hfirst, hsecond, hwhole, hjoined, all_isWritable_append⟩

end Reports

end Validation

end SchemaJoins
