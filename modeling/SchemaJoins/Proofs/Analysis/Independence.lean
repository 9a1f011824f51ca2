import Mathlib.Data.List.Perm.Basic
import SchemaJoins.Proofs.Analysis.Canonical
import SchemaJoins.Proofs.Schema.Export

/-! # What an analysis does not depend on

The order in which an export lists its entities, the shape in which it does so,
and whether a graph was written and read back do not matter to an analysis: its
result and its warnings are the same.
-/

namespace SchemaJoins

open Schema Export

namespace Analyzer

theorem analysesOf_eq_of_perm {g g' : Graph} (h : g.entities.Perm g'.entities)
    (settings : Settings) : analysesOf g settings = analysesOf g' settings := by
  rw [← analysesOf_canonical g, ← analysesOf_canonical g', Graph.canonical_eq_of_perm h]

/-- Exports that list the same entries, in any order and in either shape, are
analysed alike if the names of the entities are distinct. -/
theorem analysesOf_eq_of_lists {v w : Value} {entries others : List Entry} {es : List Entity}
    (hv : Lists v entries) (hw : Lists w others) (hperm : entries.Perm others)
    (hread : entries.mapM readEntry = .ok es) (hnames : (es.map (·.name)).Nodup) :
    ∃ g g', load v = ⟨.ok g, []⟩ ∧ load w = ⟨.ok g', []⟩ ∧
      ∀ settings, analysesOf g settings = analysesOf g' settings := by
  obtain ⟨es', hread', hes⟩ := List.perm_comp_forall₂ hperm.symm (mapM_eq_ok.mp hread)
  have hnames' : (es'.map (·.name)).Nodup := (hes.map _).nodup_iff.mpr hnames
  obtain ⟨g, hg, rfl⟩ := hv.exists_load hread hnames
  obtain ⟨g', hg', rfl⟩ := hw.exists_load (mapM_eq_ok.mpr hread') hnames'
  exact ⟨g, g', hg, hg', analysesOf_eq_of_perm hes.symm⟩

def orderEntry : Entry := [(.text "name", .text "Order"), (.text "table", .text "orders")]

def lineEntry : Entry :=
  [(.text "name", .text "Line"), (.text "associations", .list [
    .record [("name", .text "order"), ("kind", .text "belongs_to"),
      ("related_entity", .text "Order")]])]

def listedOrders : Value := .record [("entities", .list [.map lineEntry, .map orderEntry])]

def mappedOrders : Value :=
  .record [("entities", .map [(.text "Order", .map (orderEntry.drop 1)),
    (.text "Line", .map (lineEntry.drop 1))])]

theorem analysesOf_eq_of_lists_orders :
    Lists listedOrders [lineEntry, orderEntry] ∧ Lists mappedOrders [orderEntry, lineEntry] ∧
    [lineEntry, orderEntry].Perm [orderEntry, lineEntry] ∧
    ∃ es, [lineEntry, orderEntry].mapM readEntry = .ok es ∧ (es.map (·.name)).Nodup ∧
      ∃ g g', load listedOrders = ⟨.ok g, []⟩ ∧ load mappedOrders = ⟨.ok g', []⟩ ∧
        ∀ settings, analysesOf g settings = analysesOf g' settings := by
  have hlisted : Lists listedOrders [lineEntry, orderEntry] :=
    @Lists.items _ [lineEntry, orderEntry] _ rfl (.cons (fun _ => rfl) (.cons (fun _ => rfl) .nil))
  have hmapped : Lists mappedOrders [orderEntry, lineEntry] := by
    refine @Lists.mapping _ [(.text "Order", orderEntry.drop 1), (.text "Line", lineEntry.drop 1)]
      _ rfl ?_ ?_
    · simp [Value.HasDistinctKeys, orderEntry, lineEntry]
    · exact .cons (saysNamed_cons rfl) (.cons (saysNamed_cons rfl) .nil)
  have hperm : [lineEntry, orderEntry].Perm [orderEntry, lineEntry] := .swap _ _ _
  exact ⟨hlisted, hmapped, hperm, _, rfl, by decide,
    analysesOf_eq_of_lists hlisted hmapped hperm rfl (by decide)⟩

/-- The entities say the same, with the exception of a table that counts as absent. -/
structure SameContent (e e' : Entity) : Prop where
  sourceName : e'.sourceName = e.sourceName
  fields : e'.fields = e.fields
  primaryKey : e'.primaryKey = e.primaryKey
  associations : e'.associations = e.associations
  indexes : e'.indexes = e.indexes

/-- A graph that is written and read back has the same entities by the same names
and is analysed alike; writing and reading it again changes nothing. -/
theorem analysesOf_reread (g : Graph) :
    ∃ g', Graph.ofValue g.toValue = .ok g' ∧ g'.names = g.names ∧
      (∀ name e, g.find? name = some e → ∃ e', g'.find? name = some e' ∧ SameContent e e') ∧
      Graph.ofValue g'.toValue = .ok g' ∧
      ∀ settings, analysesOf g' settings = analysesOf g settings := by
  refine ⟨g.canonical, g.ofValue_toValue, g.names_canonical, fun name e he => ?_, ?_,
    analysesOf_canonical g⟩
  · refine ⟨e.canonical, ?_, e.sourceName_canonical, rfl, rfl, rfl, rfl⟩
    rw [Graph.find?_canonical, he, Option.map_some]
  · rw [Graph.ofValue_toValue, Graph.canonical_canonical]

end Analyzer

end SchemaJoins
