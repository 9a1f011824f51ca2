import SchemaJoins.Proofs.Data.Entries
import SchemaJoins.Proofs.Data.Steps
import SchemaJoins.Proofs.Schema.Graph

/-! # The canonical form of a graph

A table that counts as absent is left out, and the entities stand in the order of
their names. This is what is read back from a written graph, and graphs of the
same entities have the same canonical form.
-/

namespace SchemaJoins.Schema

theorem Field.ofValue_toValue (f : Field) : ofValue f.toValue = .ok f := rfl

namespace Association

theorem junctionKeysOf_written (keys : Option (String × String)) :
    junctionKeysOf ((keys.map fun k => Value.texts [k.1, k.2]).getD .null) = .ok keys := by
  cases keys <;> rfl

theorem ofValue_toValue (a : Association) : ofValue a.toValue = .ok a := by
  have hread : ofValue a.toValue = (do
      let ownerKey ← keyOf (keyValue a.ownerKey)
      let relatedKey ← keyOf (keyValue a.relatedKey)
      let junctionKeys ← junctionKeysOf
        ((a.junctionKeys.map fun k => Value.texts [k.1, k.2]).getD .null)
      let throughPath ← keyOf (keyValue a.throughPath)
      return { a with ownerKey, relatedKey, junctionKeys, throughPath }) := rfl
  rw [hread, keyOf_keyValue, keyOf_keyValue, junctionKeysOf_written, keyOf_keyValue]
  rfl

end Association

namespace Entity

def namedTable (e : Entity) : Value := if e.table.isTrue then e.table else .null

/-- The entity without a table that counts as absent. -/
def canonical (e : Entity) : Entity := { e with table := e.namedTable }

theorem isTrue_namedTable (e : Entity) : e.namedTable.isTrue = e.table.isTrue := by
  unfold namedTable
  by_cases h : e.table.isTrue = true
  · rw [if_pos h]
  · rw [if_neg h]
    exact (Bool.not_eq_true _ ▸ h : e.table.isTrue = false).symm

@[simp] theorem sourceName_canonical (e : Entity) : e.canonical.sourceName = e.sourceName := by
  unfold sourceName
  rw [canonical, isTrue_namedTable, namedTable]
  by_cases h : e.table.isTrue = true
  · simp only [if_pos h]
  · simp only [if_neg h]

@[simp] theorem canonical_canonical (e : Entity) : e.canonical.canonical = e.canonical := by
  have h : e.canonical.namedTable = e.namedTable := by
    rw [namedTable, canonical, isTrue_namedTable, namedTable]
    by_cases ht : e.table.isTrue = true
    · simp only [if_pos ht]
    · simp only [if_neg ht]
  rw [canonical, h, canonical]

theorem bind_indexes {α : Type} (indexes : Option (List (List String)))
    (f : Option (List (List String)) → Except Fault α) :
    (match (indexes.map fun keys => Value.list (keys.map keyValue)).getD .null with
      | .null => do f (← pure none)
      | v => do f (some (← (← v.items).mapM keyOf))) = f indexes := by
  cases indexes with
  | none => rfl
  | some keys =>
    have hkeys : (keys.map keyValue).mapM keyOf = .ok (keys.map id) :=
      mapM_map_eq_ok fun key _ => keyOf_keyValue key
    rw [List.map_id] at hkeys
    exact congrArg (· >>= fun keys => f (some keys)) hkeys

theorem ofValue_toValue (e : Entity) : ofValue e.toValue = .ok e.canonical := by
  have hread : ofValue e.toValue = (do
      let table ← if e.table.isTrue then pure e.table else pure .null
      let fields ← (e.fields.map Field.toValue).mapM Field.ofValue
      let primaryKey ← keyOf (keyValue e.primaryKey)
      let associations ← (e.associations.map Association.toValue).mapM Association.ofValue
      let indexes ← match (e.indexes.map fun keys => Value.list (keys.map keyValue)).getD .null with
        | .null => pure none
        | v => do pure (some (← (← v.items).mapM keyOf))
      return { e with table, fields, primaryKey, associations, indexes }) := rfl
  have hfields : (e.fields.map Field.toValue).mapM Field.ofValue = .ok (e.fields.map id) :=
    mapM_map_eq_ok fun f _ => f.ofValue_toValue
  have hassociations : (e.associations.map Association.toValue).mapM Association.ofValue =
      .ok (e.associations.map id) := mapM_map_eq_ok fun a _ => a.ofValue_toValue
  rw [List.map_id] at hfields hassociations
  rw [hread, hfields, keyOf_keyValue, hassociations, canonical, namedTable]
  by_cases h : e.table.isTrue = true
  · rw [if_pos h, if_pos h]
    exact bind_indexes e.indexes _
  · rw [if_neg h, if_neg h]
    exact bind_indexes e.indexes _

end Entity

namespace Graph

variable {g g' : Graph} {name : String}

theorem map_name_canonical (es : List Entity) :
    (es.map Entity.canonical).map (·.name) = es.map (·.name) := by
  rw [List.map_map]
  rfl

/-- The graph of the canonical entities, sorted by name. -/
def canonical (g : Graph) : Graph where
  entities := g.sorted.map Entity.canonical
  nodup := by
    rw [map_name_canonical, map_name_sorted]
    exact g.nodup_names

theorem canonical_eq_of_perm (h : g.entities.Perm g'.entities) : g.canonical = g'.canonical := by
  rw [canonical, canonical]
  congr 2
  exact sorted_eq_of_perm h

@[simp] theorem find?_canonical (g : Graph) (name : String) :
    g.canonical.find? name = (g.find? name).map Entity.canonical := by
  refine Option.ext fun e => ?_
  rw [find?_eq_some, Option.map_eq_some_iff, canonical, List.mem_map]
  constructor
  · rintro ⟨⟨e', he', rfl⟩, rfl⟩
    exact ⟨e', find?_eq_some.mpr ⟨mem_sorted.mp he', rfl⟩, rfl⟩
  · rintro ⟨e', he', rfl⟩
    obtain ⟨hmem, rfl⟩ := find?_eq_some.mp he'
    exact ⟨⟨e', mem_sorted.mpr hmem, rfl⟩, rfl⟩

@[simp] theorem names_canonical (g : Graph) : g.canonical.names = g.names := by
  have horder : g.canonical.order = g.names := by
    rw [order, canonical, map_name_canonical, map_name_sorted]
  rw [names, horder]
  exact sortTexts_eq_of_perm (sortTexts_perm g.order)

@[simp] theorem sorted_canonical (g : Graph) :
    g.canonical.sorted = g.sorted.map Entity.canonical := by
  rw [sorted, sorted, names_canonical, List.map_filterMap]
  congr 1
  funext name
  exact g.find?_canonical name

theorem canonical_canonical (g : Graph) : g.canonical.canonical = g.canonical := by
  unfold canonical
  congr 1
  rw [← canonical, sorted_canonical, List.map_map]
  congr 1
  funext e
  exact e.canonical_canonical

theorem ofEntities_eq {es : List Entity} (h : g.entities = es) : ofEntities es = g := by
  obtain ⟨entities, hnodup⟩ := g
  obtain rfl : entities = es := h
  have hsame := entities_ofEntities hnodup
  cases hg : ofEntities entities
  rw [hg] at hsame
  subst hsame
  rfl

theorem ofValue_toValue (g : Graph) : ofValue g.toValue = .ok g.canonical := by
  have hentities : (g.sorted.map Entity.toValue).mapM Entity.ofValue =
      .ok (g.sorted.map Entity.canonical) := mapM_map_eq_ok fun e _ => e.ofValue_toValue
  have hread : ofValue g.toValue = (do
      return ofEntities (← (g.sorted.map Entity.toValue).mapM Entity.ofValue)) := rfl
  rw [hread, hentities]
  exact congrArg Except.ok (ofEntities_eq (g := g.canonical) rfl)

end Graph

end SchemaJoins.Schema
