import SchemaJoins.Proofs.Data.Entries
import SchemaJoins.Proofs.Data.Steps
import SchemaJoins.Proofs.Schema.Graph
import SchemaJoins.Schema.Export

/-! # What an export lists

An export is a list of entries or a mapping of names to entries. What is loaded
depends on what the entries say under each key, and entries of distinct names are
loaded in their order.
-/

namespace SchemaJoins.Schema.Export

abbrev Entry := List (Value × Value)

variable {entry other : Entry} {entries : List Entry} {es : List Entity} {g : Graph} {v : Value}

def SaysSame (entry other : Entry) : Prop :=
  ∀ key : String, Value.find? entry (.text key) = Value.find? other (.text key)

/-- The entry says what an entry of a mapping says, and its name is the one that
it stands under there unless it has a name of its own. -/
def SaysNamed (named : Value × Entry) (entry : Entry) : Prop :=
  ∀ key : String, Value.find? entry (.text key) =
    (Value.find? named.2 (.text key)).or (if key = "name" then some named.1 else none)

/-- The export lists the entries, in either of its two shapes. -/
inductive Lists : Value → List Entry → Prop where
  | items {top : Entry} {own entries : List Entry} :
      Value.find? top (.text "entities") = some (.list (own.map .map)) →
      List.Forall₂ SaysSame own entries → Lists (.map top) entries
  | mapping {top : Entry} {named : List (Value × Entry)} {entries : List Entry} :
      Value.find? top (.text "entities") = some (.map (named.map fun n => (n.1, .map n.2))) →
      (∀ n ∈ named, Value.HasDistinctKeys n.2) → List.Forall₂ SaysNamed named entries →
      Lists (.map top) entries

section Reading

theorem SaysSame.get? (h : SaysSame entry other) (key : String) :
    (Value.map entry).get? key = (Value.map other).get? key := congrArg Except.ok (h key)

theorem SaysSame.getOrNull (h : SaysSame entry other) (key : String) :
    (Value.map entry).getOrNull key = (Value.map other).getOrNull key := by
  rw [Value.getOrNull, Value.getOrNull, h.get?]

theorem SaysSame.item (h : SaysSame entry other) (key : String) :
    (Value.map entry).item key = (Value.map other).item key := by
  rw [Value.item, Value.item, h key]

theorem SaysSame.readEntry (h : SaysSame entry other) : readEntry entry = readEntry other := by
  have hvalue : Entity.ofValue (.map entry) = Entity.ofValue (.map other) := by
    unfold Entity.ofValue
    simp only [h.get?, h.getOrNull, h.item]
  have hfault : entryFault entry = entryFault other := by
    funext f
    unfold entryFault
    rw [h "name"]
  rw [Export.readEntry, Export.readEntry, hvalue, hfault]

theorem saysNamed_namedEntry (name : Value) (fields : Entry)
    (h : Value.HasDistinctKeys fields) : SaysNamed (name, fields) (namedEntry name fields) := by
  intro key
  have hwritten : Value.find? (namedEntry name fields) (.text key) =
      (Value.find? fields (.text key)).or (Value.find? [(.text "name", name)] (.text key)) :=
    Value.find?_foldl_put h
  rwa [Value.find?_text_cons] at hwritten

theorem saysNamed_cons {name : Value} {fields : Entry}
    (h : Value.find? fields (.text "name") = none) :
    SaysNamed (name, fields) ((.text "name", name) :: fields) := by
  intro key
  rw [Value.find?_text_cons]
  by_cases hkey : key = "name"
  · rw [if_pos hkey, if_pos hkey, hkey, h, Option.none_or]
  · rw [if_neg hkey, if_neg hkey, Option.or_none]

end Reading

theorem listEntries_map (position : Nat) (own : List Entry) :
    listEntries position (own.map .map) = .ok own := by
  induction own generalizing position with
  | nil => rfl
  | cons fields own ih =>
    rw [List.map_cons, listEntries, ih]
    rfl

theorem mappingEntries_map (named : List (Value × Entry)) :
    mappingEntries (named.map fun n => (n.1, .map n.2)) =
      .ok (named.map fun n => namedEntry n.1 n.2) := by
  induction named with
  | nil => rfl
  | cons n named ih =>
    rw [List.map_cons, mappingEntries, ih]
    rfl

theorem Lists.exists_entriesOf (h : Lists v entries) :
    ∃ own, entriesOf v = .ok own ∧ List.Forall₂ SaysSame own entries := by
  cases h with
  | @items top own _ hfind hsame =>
    refine ⟨own, ?_, hsame⟩
    rw [entriesOf, hfind]
    exact listEntries_map 1 own
  | @mapping top named _ hfind hdistinct hnamed =>
    refine ⟨named.map fun n => namedEntry n.1 n.2, ?_, ?_⟩
    · rw [entriesOf, hfind]
      exact mappingEntries_map named
    · rw [List.forall₂_map_left_iff]
      have hboth := (List.forall₂_and_left _ _).mpr ⟨hdistinct, hnamed⟩
      refine hboth.imp fun n entry ⟨hkeys, hsays⟩ key => ?_
      rw [saysNamed_namedEntry n.1 n.2 hkeys key, hsays key]

theorem addEntries_cons {e : Entity} (hread : readEntry entry = .ok e)
    (hnew : e.name ∉ g.entities.map (·.name)) :
    addEntries g (entry :: entries) = addEntries (g.add e) entries := by
  have hnone : g.find? e.name = none := by
    refine Option.eq_none_iff_forall_ne_some.mpr fun found hfound => hnew ?_
    obtain ⟨hmem, hname⟩ := Graph.find?_eq_some.mp hfound
    exact List.mem_map.mpr ⟨found, hmem, hname⟩
  rw [addEntries, hread]
  change (do
    if (g.find? e.name).isSome then
      Logged.warn ("Duplicate entity '" ++ e.name ++ "' in schema export, keeping the last")
    addEntries (g.add e) entries) = _
  rw [hnone]
  rfl

theorem addEntries_of_nodup (hread : entries.mapM readEntry = .ok es)
    (hnames : ((g.entities ++ es).map (·.name)).Nodup) :
    addEntries g entries = ⟨.ok (es.foldl Graph.add g), []⟩ := by
  induction entries generalizing g es with
  | nil =>
    cases hread
    rfl
  | cons entry entries ih =>
    obtain ⟨e, rest, he, hrest, rfl⟩ := List.forall₂_cons_left_iff.mp (mapM_eq_ok.mp hread)
    have hsplit : g.entities.map (·.name) ++ e.name :: rest.map (·.name) =
        (g.entities ++ e :: rest).map (·.name) := by
      rw [List.map_append, List.map_cons]
    have hnew : e.name ∉ g.entities.map (·.name) := by
      rw [← hsplit] at hnames
      exact fun hm => (List.nodup_append.mp hnames).2.2 _ hm _ List.mem_cons_self rfl
    have hadd : (g.add e).entities = g.entities ++ [e] := Graph.place_of_not_mem hnew
    rw [addEntries_cons he hnew, List.foldl_cons]
    refine ih (mapM_eq_ok.mpr hrest) ?_
    rwa [hadd, List.append_assoc, List.singleton_append]

theorem mapM_readEntry {own : List Entry} (h : List.Forall₂ SaysSame own entries) :
    own.mapM readEntry = entries.mapM readEntry := by
  induction h with
  | nil => rfl
  | cons hentry _ ih => rw [List.mapM_cons, List.mapM_cons, hentry.readEntry, ih]

/-- An export of distinct names is loaded, and the graph has the entities that it
lists, in their order. -/
theorem Lists.exists_load (h : Lists v entries) (hread : entries.mapM readEntry = .ok es)
    (hnames : (es.map (·.name)).Nodup) : ∃ g, load v = ⟨.ok g, []⟩ ∧ g.entities = es := by
  obtain ⟨own, hown, hsame⟩ := h.exists_entriesOf
  have hadd := addEntries_of_nodup (g := .empty) ((mapM_readEntry hsame).trans hread) hnames
  refine ⟨Graph.ofEntities es, ?_, Graph.entities_ofEntities hnames⟩
  unfold load
  rw [hown]
  exact congrArg (fun added => (⟨added.result, added.warnings⟩ : Logged Graph)) hadd

end SchemaJoins.Schema.Export
