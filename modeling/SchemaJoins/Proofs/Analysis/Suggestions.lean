import SchemaJoins.Proofs.Analysis.Cycles
import SchemaJoins.Proofs.Analysis.Origins
import SchemaJoins.Proofs.Text.Split

/-! # Suggestions of indexes

A join carries the foreign key of its relationship as one text, with commas between
the columns, and the suggestions read the columns back from this text. A comma in the
name of a column is read like those between columns, and a column without a name is
not read at all. So a suggestion is what the foreign key asks for where the columns
that are read back need an index exactly if those of the key do, and none is lost.
-/

namespace SchemaJoins

open Schema Relationship

namespace Schema.Entity

variable {e : Entity} {columns : List String}

/-- The columns are, in order, the first ones of some index that is reported. -/
def Covers (e : Entity) (columns : List String) : Prop :=
  ∃ index ∈ e.indexes.getD [], columns <+: index

instance : DecidablePred e.Covers := fun _ =>
  inferInstanceAs (Decidable (∃ index ∈ e.indexes.getD [], _ <+: index))

def NeedsIndex (e : Entity) (columns : List String) : Prop := columns ≠ [] ∧ ¬ e.Covers columns

instance : DecidablePred e.NeedsIndex := fun columns =>
  inferInstanceAs (Decidable (columns ≠ [] ∧ ¬ e.Covers columns))

theorem isIndexed?_getD_eq_true_iff :
    (e.isIndexed? columns).getD false = true ↔ e.Covers columns := by
  rw [isIndexed?, Covers]
  cases e.indexes with
  | none => simp
  | some indexes => simp [isCovered, List.any_eq_true]

theorem isEmpty_or_isIndexed?_eq_true_iff :
    (columns.isEmpty || (e.isIndexed? columns).getD false) = true ↔ ¬ e.NeedsIndex columns := by
  rw [Bool.or_eq_true, isIndexed?_getD_eq_true_iff, List.isEmpty_iff, NeedsIndex, not_and_not_right,
    or_iff_not_imp_left]

end Schema.Entity

namespace JoinConfig

variable {columns : List String} {name part : String}

def cut (name : String) : List String := (name.toList.splitOn ',').map String.ofList

/-- What stands between the commas, also those in the names of columns. -/
def parts (columns : List String) : List String := columns.flatMap cut

/-- The columns as they are read from the text of their key. -/
def readBack (columns : List String) : List String := (parts columns).filter (· ≠ "")

theorem notMem_of_mem_cut (h : part ∈ cut name) : ',' ∉ part.toList := by
  obtain ⟨cs, hcs, rfl⟩ := List.mem_map.mp h
  rw [String.toList_ofList]
  exact Text.notMem_of_mem_splitOn hcs

theorem cut_eq_singleton (h : ',' ∉ name.toList) : cut name = [name] := by
  rw [cut, List.splitOn_eq_singleton h, List.map_singleton, String.ofList_toList]

theorem cut_keyText (h : columns ≠ []) : cut (keyText columns) = parts columns := by
  rw [cut, keyText, Text.splitOn_intercalate_texts rfl h, List.map_flatMap]
  rfl

theorem keyText_cut (name : String) : keyText (cut name) = name := by
  have hcomma : ",".toList = [','] := rfl
  rw [← String.toList_inj, keyText, String.toList_intercalate, hcomma, cut, List.map_map]
  have hid : String.toList ∘ String.ofList = id := funext fun _ => String.toList_ofList
  rw [hid, List.map_id, List.intercalate_splitOn]

theorem parts_eq_self (h : ∀ column ∈ columns, ',' ∉ column.toList) : parts columns = columns := by
  have hsingle : ∀ column ∈ columns, cut column = [column] :=
    fun column hcolumn => cut_eq_singleton (h column hcolumn)
  rw [parts, List.flatMap_congr hsingle, List.flatMap_singleton']

theorem notMem_of_mem_readBack (h : part ∈ readBack columns) : ',' ∉ part.toList := by
  obtain ⟨column, -, hpart⟩ := List.mem_flatMap.mp (List.mem_of_mem_filter h)
  exact notMem_of_mem_cut hpart

theorem readBack_eq_self (h : ∀ column ∈ columns, column ≠ "" ∧ ',' ∉ column.toList) :
    readBack columns = columns := by
  rw [readBack, parts_eq_self fun column hcolumn => (h column hcolumn).2, List.filter_eq_self]
  exact fun column hcolumn => decide_eq_true (h column hcolumn).1

theorem columnsOf_keyText (columns : List String) :
    Analyzer.columnsOf (keyText columns) = readBack columns := by
  have hcut : Analyzer.columnsOf (keyText columns) = (cut (keyText columns)).filter (· ≠ "") := by
    have hempty (cs : List Char) : (!cs.isEmpty) = decide (String.ofList cs ≠ "") := by
      cases cs <;> simp [← String.toList_inj]
    rw [Analyzer.columnsOf, cut, Text.splitOn_eq, List.filter_map]
    exact congrArg (List.map String.ofList) (List.filter_congr fun cs _ => hempty cs)
  rw [hcut]
  cases columns with
  | nil => rfl
  | cons column rest => rw [cut_keyText (List.cons_ne_nil column rest), readBack]

theorem readBack_congr {others : List String} (h : keyText columns = keyText others) :
    readBack columns = readBack others := by
  rw [← columnsOf_keyText, ← columnsOf_keyText, h]

theorem keyText_readBack_eq_iff (h : columns ≠ []) (hread : readBack columns ≠ []) :
    keyText (readBack columns) = keyText columns ↔ "" ∉ parts columns := by
  constructor
  · intro htext
    have hcut := congrArg cut htext
    rw [cut_keyText hread, cut_keyText h,
      parts_eq_self fun _ hcolumn => notMem_of_mem_readBack hcolumn] at hcut
    rw [← hcut]
    intro hempty
    exact of_decide_eq_true (List.mem_filter.mp hempty).2 rfl
  · intro hparts
    have hself : readBack columns = parts columns := by
      rw [readBack, List.filter_eq_self]
      exact fun part hpart => decide_eq_true fun he => hparts (he ▸ hpart)
    rw [hself, ← cut_keyText h, keyText_cut]

end JoinConfig

namespace Relationship

def foreignColumns (r : Relationship) : List String := r.foreignKey.map Value.display

end Relationship

namespace Analyzer

variable {z : Analyzer} {e : Entity} {a : Analysis} {r : Relationship} {c : JoinConfig}
  {rs : List Relationship} {columns others : List String}

def indexLine (e : Entity) (columns : List String) : String :=
  "Consider adding index on " ++ e.sourceName.display ++ "." ++ ",".intercalate columns

def lineFor? (e : Entity) (r : Relationship) (columns : List String) : Option String :=
  if r.effectiveCardinality = .direct .belongsTo ∧ e.NeedsIndex columns then
    some (indexLine e columns)
  else none

/-- What is read back of the columns needs an index exactly if they do, and then all of
it is named. -/
def Recalls (e : Entity) (columns : List String) : Prop :=
  (e.NeedsIndex (JoinConfig.readBack columns) ↔ e.NeedsIndex columns) ∧
    (e.NeedsIndex columns → "" ∉ JoinConfig.parts columns)

theorem recalls_of_plain (h : ∀ column ∈ columns, column ≠ "" ∧ ',' ∉ column.toList) :
    Recalls e columns := by
  have hparts : JoinConfig.parts columns = columns :=
    JoinConfig.parts_eq_self fun column hcolumn => (h column hcolumn).2
  refine ⟨by rw [JoinConfig.readBack_eq_self h], fun _ hempty => ?_⟩
  rw [hparts] at hempty
  exact (h "" hempty).1 rfl

theorem indexLine_eq_iff : indexLine e columns = indexLine e others ↔
    JoinConfig.keyText columns = JoinConfig.keyText others := String.append_right_inj _

theorem lineFor?_eq_some {line : String} : lineFor? e r columns = some line ↔
    (r.effectiveCardinality = .direct .belongsTo ∧ e.NeedsIndex columns) ∧
      indexLine e columns = line := by
  rw [lineFor?, Option.ite_none_right_eq_some, Option.some_inj]

theorem lineFor?_readBack_eq_iff :
    lineFor? e r (JoinConfig.readBack columns) = lineFor? e r columns ↔
      (r.effectiveCardinality = .direct .belongsTo → Recalls e columns) := by
  by_cases hr : r.effectiveCardinality = .direct .belongsTo
  · have hline (columns : List String) : lineFor? e r columns =
        if e.NeedsIndex columns then some (indexLine e columns) else none := by
      simp only [lineFor?, hr, true_and]
    rw [forall_prop_of_true hr, Recalls, hline, hline]
    by_cases hread : e.NeedsIndex (JoinConfig.readBack columns)
    · by_cases hneeds : e.NeedsIndex columns
      · rw [if_pos hread, if_pos hneeds, Option.some_inj, indexLine_eq_iff,
          JoinConfig.keyText_readBack_eq_iff hneeds.1 hread.1, forall_prop_of_true hneeds]
        exact (and_iff_right (iff_of_true hread hneeds)).symm
      · simp [hread, hneeds]
    · by_cases hneeds : e.NeedsIndex columns <;> simp [hread, hneeds]
  · rw [lineFor?, lineFor?, if_neg (mt And.left hr), if_neg (mt And.left hr)]
    exact iff_of_true rfl fun h => absurd h hr

theorem unindexedKey?_of_stemsFrom (h : c.StemsFrom r) : ∃ key, unindexedKey? e c = .ok key ∧
    key.map (suggestion e) = lineFor? e r (JoinConfig.readBack r.foreignColumns) := by
  obtain ⟨text, htext, hmetadata⟩ := h.foreign_key
  obtain ⟨columns, hcolumns, rfl⟩ := Value.exists_texts_of_joinTexts htext
  have hforeign : r.foreignColumns = columns := by
    rw [foreignColumns, hcolumns, List.map_map]
    exact List.map_id _
  have hread : columnsOf ((c.metadata? "foreign_key").getD (.text "")).display =
      JoinConfig.readBack r.foreignColumns := by
    rw [hmetadata, hforeign]
    exact JoinConfig.columnsOf_keyText columns
  have hcardinality := JoinConfig.cardinality_of_metadata? h.cardinality
  unfold unindexedKey?
  rw [hcardinality, hread]
  by_cases hr : r.effectiveCardinality = .direct .belongsTo
  · refine ⟨_, by rw [hr]; rfl, ?_⟩
    by_cases hneeds : e.NeedsIndex (JoinConfig.readBack r.foreignColumns)
    · rw [if_neg (mt Entity.isEmpty_or_isIndexed?_eq_true_iff.mp (not_not.mpr hneeds)), lineFor?,
        if_pos ⟨hr, hneeds⟩]
      rfl
    · rw [if_pos (Entity.isEmpty_or_isIndexed?_eq_true_iff.mpr hneeds), lineFor?,
        if_neg (mt And.right hneeds)]
      rfl
  · have hother : (some r.effectiveCardinality != some (.direct .belongsTo)) = true :=
      bne_iff_ne.mpr fun h => hr (Option.some.inj h)
    refine ⟨none, ?_, ?_⟩
    · change (if (some r.effectiveCardinality != _) = true then _ else _) = _
      rw [if_pos hother]
      rfl
    · rw [lineFor?, if_neg (mt And.left hr)]
      rfl

theorem suggestionsFor_of_stemsFrom {joins : List JoinConfig}
    (h : List.Forall₂ JoinConfig.StemsFrom rs joins) :
    suggestionsFor e joins = .ok (rs.filterMap fun r =>
      lineFor? e r (JoinConfig.readBack r.foreignColumns)).eraseDups := by
  have hkeys : ∃ keys, joins.mapM (unindexedKey? e) = .ok keys ∧
      (keys.filterMap id).map (suggestion e) =
        rs.filterMap fun r => lineFor? e r (JoinConfig.readBack r.foreignColumns) := by
    induction h with
    | nil => exact ⟨[], rfl, rfl⟩
    | cons hr _ ih =>
      obtain ⟨key, hkey, hline⟩ := unindexedKey?_of_stemsFrom hr
      obtain ⟨keys, hkeys, hlines⟩ := ih
      refine ⟨key :: keys, ?_, ?_⟩
      · rw [List.mapM_cons, hkey, hkeys]
        rfl
      · rw [List.filterMap_cons, List.filterMap_cons, ← hline]
        cases key with
        | none => exact hlines
        | some columns => exact congrArg (List.cons (suggestion e columns)) hlines
  obtain ⟨keys, hkeys, hlines⟩ := hkeys
  rw [suggestionsFor, hkeys, ← hlines]
  rfl

theorem forall₂_stemsFrom {cycles : List (List Value)}
    (h : (z.analyzeEntity cycles e).result = .ok a) :
    ∃ rs, (ofEntity z.graph e).result = .ok rs ∧
      List.Forall₂ JoinConfig.StemsFrom (rs.eraseDupsBy sameName) a.joins := by
  obtain ⟨-, rs, built, _, _, hrs, hbuilt, hfitted, -⟩ := of_analyzeEntity h
  obtain ⟨fs, hkept, hjoins, hall⟩ := exists_fittings hbuilt hfitted
  refine ⟨rs, hrs, ?_⟩
  rw [← hkept, ← hjoins, List.forall₂_map_left_iff, List.forall₂_map_right_iff, List.forall₂_same]
  intro f hf
  obtain ⟨hfbuilt, hffitted⟩ := hall f hf
  have hfit := Optimizer.isFit_of_optimize (JoinConfig.isUnfitted_of_build hfbuilt) hffitted
  exact Fitting.stemsFrom_fitted hfit (JoinConfig.stemsFrom_of_build hfbuilt).1

theorem indexLine_notMem_of_recalls (hall : ∀ r ∈ rs,
      r.effectiveCardinality = .direct .belongsTo → Recalls e r.foreignColumns)
    (hr : r ∈ rs) (hparent : r.effectiveCardinality = .direct .belongsTo)
    (hcovers : e.Covers r.foreignColumns) :
    indexLine e r.foreignColumns ∉ rs.filterMap fun s => lineFor? e s s.foreignColumns := by
  intro hline
  obtain ⟨s, hs, hline⟩ := List.mem_filterMap.mp hline
  obtain ⟨⟨hsparent, hneeds⟩, hline⟩ := lineFor?_eq_some.mp hline
  -- both keys have one text, so what is read back of one is read back of the other
  have hread := JoinConfig.readBack_congr (indexLine_eq_iff.mp hline)
  have hsread := (hall s hs hsparent).1.mpr hneeds
  rw [hread] at hsread
  exact ((hall r hr hparent).1.mp hsread).2 hcovers

/-- The suggestions of an analysis are the lines about what is read back of the foreign
keys. These are the lines about the keys themselves where the keys are recalled, as those
of plain names are, and then no index is suggested for columns that one covers. -/
structure SuggestsReadBack (e : Entity) (kept : List Relationship) (a : Analysis) : Prop where
  joins : List.Forall₂ JoinConfig.StemsFrom kept a.joins
  suggestions : a.suggestions = (kept.filterMap fun r =>
    lineFor? e r (JoinConfig.readBack r.foreignColumns)).eraseDups
  same_line_iff : ∀ r ∈ kept,
    lineFor? e r (JoinConfig.readBack r.foreignColumns) = lineFor? e r r.foreignColumns ↔
      (r.effectiveCardinality = .direct .belongsTo → Recalls e r.foreignColumns)
  recalls_plain : ∀ r ∈ kept, (∀ column ∈ r.foreignColumns, column ≠ "" ∧ ',' ∉ column.toList) →
    Recalls e r.foreignColumns
  recalled :
    (∀ r ∈ kept, r.effectiveCardinality = .direct .belongsTo → Recalls e r.foreignColumns) →
      a.suggestions = (kept.filterMap fun r => lineFor? e r r.foreignColumns).eraseDups ∧
        ∀ r ∈ kept, r.effectiveCardinality = .direct .belongsTo → e.Covers r.foreignColumns →
          indexLine e r.foreignColumns ∉ a.suggestions

theorem suggestions_of_analyzeSchema {asked : Option String} {as : List Analysis}
    (has : (z.analyzeSchema asked).result = .ok as) (ha : a ∈ as) :
    ∃ e rs, z.graph.find? a.entity = some e ∧ (ofEntity z.graph e).result = .ok rs ∧
      SuggestsReadBack e (rs.eraseDupsBy sameName) a := by
  obtain ⟨e, cycles, he, h⟩ := mem_analyzeSchema has ha
  obtain ⟨_, hanalysis⟩ := analyzeEntity_eq_ok.mp h
  obtain ⟨rs, hrs, hstems⟩ := forall₂_stemsFrom h
  have hsuggestions := Except.ok.inj
    (hanalysis.suggestions.symm.trans (suggestionsFor_of_stemsFrom hstems))
  rw [← hanalysis.entity] at he
  refine ⟨e, rs, he, hrs, hstems, hsuggestions, ?_, ?_, ?_⟩
  · exact fun r _ => lineFor?_readBack_eq_iff
  · exact fun r _ => recalls_of_plain
  · intro hall
    have hlines : ((rs.eraseDupsBy sameName).filterMap fun r =>
        lineFor? e r (JoinConfig.readBack r.foreignColumns)) =
          (rs.eraseDupsBy sameName).filterMap fun r => lineFor? e r r.foreignColumns :=
      List.filterMap_congr fun r hr => lineFor?_readBack_eq_iff.mpr (hall r hr)
    rw [hlines] at hsuggestions
    refine ⟨hsuggestions, fun r hr hparent hcovers => ?_⟩
    rw [hsuggestions, List.mem_eraseDups]
    exact indexLine_notMem_of_recalls hall hr hparent hcovers

/-- Items that refer to their order by a column whose name has a comma, and an index on
this column. -/
def tenantItem : Entity :=
  { name := "Item"
    indexes := some [["tenant,order"]]
    associations := [
      { name := "order", kind := "belongs_to", relatedEntity := "Order"
        ownerKey := ["tenant,order"] }] }

def tenantAnalyzer : Analyzer := byDefault (.ofEntities [{ name := "Order" }, tenantItem])

def tenantRelationship : Relationship :=
  ⟨.text "order", .text "Item", .text "Order", [], .direct .belongsTo ["tenant,order"] ["id"]⟩

def tenantAnalysis : Analysis :=
  { entity := "Item"
    joins := [
      { name := .text "order"
        kind := .inner
        target := .text "Order"
        conditions := [(.text "tenant,order", .text "id")]
        strategy := .eager
        metadata := [("cardinality", .text "belongs_to"), ("foreign_key", .text "tenant,order"),
          ("owner_key", .text "tenant,order")] }]
    relationships := [(.direct .belongsTo, [.text "order"])]
    hierarchies := [], dimensions := [], junctions := [], cycles := [], warnings := []
    suggestions := ["Consider adding index on Item.tenant,order"] }

theorem ofEntity_tenantItem :
    (ofEntity tenantAnalyzer.graph tenantItem).result = .ok [tenantRelationship] := rfl

theorem analyzeSchema_tenantItem :
    (tenantAnalyzer.analyzeSchema (some "Item")).result = .ok [tenantAnalysis] := by
  have hsorted : tenantAnalyzer.graph.sorted = [tenantItem, { name := "Order" }] :=
    Graph.sorted_eq (.swap _ _ []) (by decide)
  have hfound : Relationship.cycles 3 false [tenantRelationship] = .ok [] :=
    (Relationship.cycles_of_pairwise rfl (by decide)).trans rfl
  have hcycles : tenantAnalyzer.cyclesIfWanted.result = .ok [] :=
    cyclesIfWanted_of_sorted rfl hsorted hfound rfl
  have hitem : (tenantAnalyzer.analyzeEntity [] tenantItem).result = .ok tenantAnalysis := by
    refine analyzeEntity_eq_ok.mpr
      ⟨[tenantRelationship], ofEntity_tenantItem, rfl, ⟨_, rfl, rfl⟩, rfl, rfl, ?_, rfl, rfl, rfl,
        rfl⟩
    rw [Dimension.detect, Dimension.companion?, Graph.findByName?, hsorted]
    rfl
  exact analyzeSchema_some_eq_ok.mpr ⟨[], tenantItem, tenantAnalysis, hcycles, rfl, hitem, rfl⟩

theorem suggestions_of_analyzeSchema_tenantItem :
    (tenantAnalyzer.analyzeSchema (some "Item")).result = .ok [tenantAnalysis] ∧
    tenantAnalysis ∈ [tenantAnalysis] ∧
    ∃ e rs, tenantAnalyzer.graph.find? tenantAnalysis.entity = some e ∧
      (ofEntity tenantAnalyzer.graph e).result = .ok rs ∧
      SuggestsReadBack e (rs.eraseDupsBy sameName) tenantAnalysis := by
  have ha : tenantAnalysis ∈ [tenantAnalysis] := List.mem_singleton_self _
  exact ⟨analyzeSchema_tenantItem, ha, suggestions_of_analyzeSchema analyzeSchema_tenantItem ha⟩

/-- An index is suggested for the column that has one. -/
theorem suggests_covered_tenantItem :
    (tenantAnalyzer.analyzeSchema (some "Item")).result = .ok [tenantAnalysis] ∧
    (ofEntity tenantAnalyzer.graph tenantItem).result = .ok [tenantRelationship] ∧
    tenantRelationship.foreignColumns = ["tenant,order"] ∧
    tenantItem.Covers tenantRelationship.foreignColumns ∧
    lineFor? tenantItem tenantRelationship tenantRelationship.foreignColumns = none ∧
    indexLine tenantItem tenantRelationship.foreignColumns ∈ tenantAnalysis.suggestions := by
  have hcovers : tenantItem.Covers tenantRelationship.foreignColumns :=
    ⟨["tenant,order"], List.mem_singleton_self _, List.prefix_rfl⟩
  refine ⟨analyzeSchema_tenantItem, ofEntity_tenantItem, rfl, hcovers, ?_, ?_⟩
  · exact if_neg fun h => h.2.2 hcovers
  · exact List.mem_singleton_self _

end Analyzer

end SchemaJoins
