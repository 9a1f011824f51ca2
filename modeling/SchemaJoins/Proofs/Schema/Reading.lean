import SchemaJoins.Proofs.Schema.Export

/-! # What is read of an export

Each field of an association and of an entity is read off what the entry says
under its own keys. Most values are turned into texts or keys; the table, the
junction and the requested join kind are taken as they stand. A graph is loaded
exactly if all entries can be read, and it is made of what was read.
-/

namespace SchemaJoins

namespace Value

variable {entries : List (Value × Value)} {key : String} {v w : Value} {xs : List Value}

theorem map_display_eq_some {s : String} : (find? entries (.text key)).map display = some s ↔
    ∃ w, (map entries).item key = .ok w ∧ w.display = s := by
  rw [Option.map_eq_some_iff]
  exact exists_congr fun w => and_congr_left' item_map_eq_ok.symm

theorem items_eq_ok : v.items = .ok xs ↔ v.items? = some xs := by
  rw [items]
  cases v.items? <;> simp

theorem exists_map_of_getOrNull (h : v.getOrNull key = .ok w) : ∃ entries, v = .map entries := by
  cases v with
  | map entries => exact ⟨entries, rfl⟩
  | _ => cases h

end Value

namespace Schema.Export

variable {entry other fields : Entry} {entries : List Entry} {a : Association} {e : Entity}
  {es : List Entity} {g g' : Graph} {v : Value}

/-- What the entry says under a key, `null` if nothing. -/
def said (entry : Entry) (key : String) : Value := (Value.find? entry (.text key)).getD .null

theorem getOrNull_map (entry : Entry) (key : String) :
    (Value.map entry).getOrNull key = .ok (said entry key) := rfl

theorem get?_map (entry : Entry) (key : String) :
    (Value.map entry).get? key = .ok (Value.find? entry (.text key)) := rfl

/-- What the entry lists under a key; without the key the list is empty. -/
def listed (entry : Entry) (key : String) : Option (List Value) :=
  ((Value.find? entry (.text key)).getD (.list [])).items?

structure IsAssociation (fields : Entry) (a : Association) : Prop where
  name : (Value.find? fields (.text "name")).map Value.display = some a.name
  kind : (Value.find? fields (.text "kind")).map Value.display = some a.kind
  relatedEntity : (Value.find? fields (.text "related_entity")).map Value.display =
    some a.relatedEntity
  ownerKey : keyOf (said fields "owner_key") = .ok a.ownerKey
  relatedKey : keyOf (said fields "related_key") = .ok a.relatedKey
  junctionEntity : a.junctionEntity = said fields "junction_entity"
  junctionKeys : Association.junctionKeysOf (said fields "junction_keys") = .ok a.junctionKeys
  throughPath : keyOf ((Value.find? fields (.text "through_path")).getD (said fields "through")) =
    .ok a.throughPath
  joinKind : a.joinKind = said fields "join_kind"

theorem association_eq_ok :
    Association.ofValue v = .ok a ↔ ∃ fields, v = .map fields ∧ IsAssociation fields a := by
  constructor
  · intro h
    obtain ⟨_, hjunctionKeys, h⟩ := bind_eq_ok.mp h
    obtain ⟨fields, rfl⟩ := Value.exists_map_of_getOrNull hjunctionKeys
    cases hjunctionKeys
    obtain ⟨_, hname, h⟩ := bind_eq_ok.mp h
    obtain ⟨_, hkind, h⟩ := bind_eq_ok.mp h
    obtain ⟨_, hrelated, h⟩ := bind_eq_ok.mp h
    obtain ⟨_, ⟨⟩, h⟩ := bind_eq_ok.mp h
    obtain ⟨_, hownerKey, h⟩ := bind_eq_ok.mp h
    obtain ⟨_, ⟨⟩, h⟩ := bind_eq_ok.mp h
    obtain ⟨_, hrelatedKey, h⟩ := bind_eq_ok.mp h
    obtain ⟨_, ⟨⟩, h⟩ := bind_eq_ok.mp h
    obtain ⟨_, hkeys, h⟩ := bind_eq_ok.mp h
    obtain ⟨_, ⟨⟩, h⟩ := bind_eq_ok.mp h
    obtain ⟨_, ⟨⟩, h⟩ := bind_eq_ok.mp h
    obtain ⟨_, hpath, h⟩ := bind_eq_ok.mp h
    obtain ⟨_, ⟨⟩, h⟩ := bind_eq_ok.mp h
    cases h
    exact ⟨fields, rfl, Value.map_display_eq_some.mpr ⟨_, hname, rfl⟩,
      Value.map_display_eq_some.mpr ⟨_, hkind, rfl⟩,
      Value.map_display_eq_some.mpr ⟨_, hrelated, rfl⟩,
      hownerKey, hrelatedKey, rfl, hkeys, hpath, rfl⟩
  · rintro ⟨fields, rfl, h⟩
    obtain ⟨name, hname, hnamed⟩ := Value.map_display_eq_some.mp h.name
    obtain ⟨kind, hkind, hkindOf⟩ := Value.map_display_eq_some.mp h.kind
    obtain ⟨related, hrelated, hrelatedTo⟩ := Value.map_display_eq_some.mp h.relatedEntity
    refine bind_eq_ok.mpr ⟨_, rfl, bind_eq_ok.mpr ⟨name, hname, ?_⟩⟩
    refine bind_eq_ok.mpr ⟨kind, hkind, bind_eq_ok.mpr ⟨related, hrelated, ?_⟩⟩
    refine bind_eq_ok.mpr ⟨_, rfl, bind_eq_ok.mpr ⟨_, h.ownerKey, ?_⟩⟩
    refine bind_eq_ok.mpr ⟨_, rfl, bind_eq_ok.mpr ⟨_, h.relatedKey, ?_⟩⟩
    refine bind_eq_ok.mpr ⟨_, rfl, bind_eq_ok.mpr ⟨_, h.junctionKeys, ?_⟩⟩
    refine bind_eq_ok.mpr ⟨_, rfl, bind_eq_ok.mpr ⟨_, rfl, bind_eq_ok.mpr ⟨_, h.throughPath, ?_⟩⟩⟩
    refine bind_eq_ok.mpr ⟨_, rfl, ?_⟩
    have hjunction : (Value.find? fields (.text "junction_entity")).getD .null = a.junctionEntity :=
      h.junctionEntity.symm
    have hjoin : (Value.find? fields (.text "join_kind")).getD .null = a.joinKind := h.joinKind.symm
    rw [hnamed, hkindOf, hrelatedTo, hjunction, hjoin]
    rfl

/-- The table that an entry names under either of two keys. -/
def tableOf (entry : Entry) : Value :=
  if (said entry "table").isTrue then said entry "table" else said entry "source"

def indexesOf : Value → Except Fault (Option (List (List String)))
  | .null => pure none
  | v => do return some (← (← v.items).mapM keyOf)

structure IsEntity (entry : Entry) (e : Entity) : Prop where
  name : (Value.find? entry (.text "name")).map Value.display = some e.name
  table : e.table = tableOf entry
  fields : ∃ items, listed entry "fields" = some items ∧ items.mapM Field.ofValue = .ok e.fields
  primaryKey : keyOf ((Value.find? entry (.text "primary_key")).getD (.text "id")) =
    .ok e.primaryKey
  associations : ∃ items, listed entry "associations" = some items ∧
    items.mapM Association.ofValue = .ok e.associations
  indexes : indexesOf (said entry "indexes") = .ok e.indexes

/-- Reading an entity, with what stands under two keys or in two forms read at once. -/
theorem ofValue_map (entry : Entry) : Entity.ofValue (.map entry) = (do
    let name ← (Value.map entry).item "name"
    let items ← ((Value.find? entry (.text "fields")).getD (.list [])).items
    let fields ← items.mapM Field.ofValue
    let primaryKey ← keyOf ((Value.find? entry (.text "primary_key")).getD (.text "id"))
    let records ← ((Value.find? entry (.text "associations")).getD (.list [])).items
    let associations ← records.mapM Association.ofValue
    let indexes ← indexesOf (said entry "indexes")
    return { name := name.display, table := tableOf entry, fields, primaryKey, associations,
             indexes }) := by
  have hindexes {α : Type} (v : Value) (f : Option (List (List String)) → Except Fault α) :
      indexesOf v >>= f = match v with
        | .null => pure none >>= f
        | w => w.items >>= fun items => items.mapM keyOf >>= fun keys =>
            pure (some keys) >>= f := by
    cases v with
    | null => rfl
    | _ => simp only [indexesOf, bind_assoc]
  have hok {α β : Type} (x : α) (f : α → Except Fault β) : Except.ok x >>= f = f x := rfl
  unfold Entity.ofValue tableOf
  simp only [hindexes, getOrNull_map, get?_map, hok, pure_bind]
  cases (Value.map entry).item "name" with
  | error f => rfl
  | ok name =>
    by_cases htable : (said entry "table").isTrue = true
    · rw [if_pos htable]
      exact if_pos htable
    · rw [if_neg htable]
      exact if_neg htable

theorem entity_eq_ok : Entity.ofValue (.map entry) = .ok e ↔ IsEntity entry e := by
  rw [ofValue_map]
  constructor
  · intro h
    obtain ⟨_, hname, h⟩ := bind_eq_ok.mp h
    obtain ⟨_, hitems, h⟩ := bind_eq_ok.mp h
    obtain ⟨_, hfields, h⟩ := bind_eq_ok.mp h
    obtain ⟨_, hkey, h⟩ := bind_eq_ok.mp h
    obtain ⟨_, hrecords, h⟩ := bind_eq_ok.mp h
    obtain ⟨_, hassociations, h⟩ := bind_eq_ok.mp h
    obtain ⟨_, hindexes, h⟩ := bind_eq_ok.mp h
    cases h
    exact ⟨Value.map_display_eq_some.mpr ⟨_, hname, rfl⟩, rfl,
      ⟨_, Value.items_eq_ok.mp hitems, hfields⟩, hkey,
      ⟨_, Value.items_eq_ok.mp hrecords, hassociations⟩, hindexes⟩
  · intro h
    obtain ⟨name, hname, hnamed⟩ := Value.map_display_eq_some.mp h.name
    obtain ⟨items, hitems, hfields⟩ := h.fields
    obtain ⟨records, hrecords, hassociations⟩ := h.associations
    refine bind_eq_ok.mpr ⟨name, hname, ?_⟩
    refine bind_eq_ok.mpr ⟨items, Value.items_eq_ok.mpr hitems, ?_⟩
    refine bind_eq_ok.mpr ⟨_, hfields, bind_eq_ok.mpr ⟨_, h.primaryKey, ?_⟩⟩
    refine bind_eq_ok.mpr ⟨records, Value.items_eq_ok.mpr hrecords, ?_⟩
    refine bind_eq_ok.mpr ⟨_, hassociations, bind_eq_ok.mpr ⟨_, h.indexes, ?_⟩⟩
    rw [hnamed, ← h.table]
    rfl

theorem readEntry_eq_ok : readEntry entry = .ok e ↔ IsEntity entry e := by
  rw [← entity_eq_ok, readEntry]
  cases Entity.ofValue (.map entry) <;> simp [Except.mapError]

theorem addEntries_cons_eq_ok : (addEntries g (entry :: entries)).result = .ok g' ↔
    ∃ e, readEntry entry = .ok e ∧ (addEntries (g.add e) entries).result = .ok g' := by
  rw [addEntries, Logged.result_bind_eq_ok]
  refine exists_congr fun e => and_congr Iff.rfl ?_
  split
  · rw [Logged.result_bind_eq_ok]
    constructor
    · rintro ⟨_, _, h⟩
      exact h
    · exact fun h => ⟨(), rfl, h⟩
  · exact Iff.rfl

theorem addEntries_eq_ok : (addEntries g entries).result = .ok g' ↔
    ∃ es, entries.mapM readEntry = .ok es ∧ g' = es.foldl Graph.add g := by
  induction entries generalizing g with
  | nil =>
    constructor
    · intro h
      cases h
      exact ⟨[], rfl, rfl⟩
    · rintro ⟨_, ⟨⟩, rfl⟩
      rfl
  | cons entry entries ih =>
    rw [addEntries_cons_eq_ok]
    constructor
    · rintro ⟨e, he, h⟩
      obtain ⟨es, hes, rfl⟩ := ih.mp h
      exact ⟨e :: es, mapM_eq_ok.mpr (.cons he (mapM_eq_ok.mp hes)), rfl⟩
    · rintro ⟨es, hes, rfl⟩
      obtain ⟨e, rest, he, hrest, rfl⟩ := List.forall₂_cons_left_iff.mp (mapM_eq_ok.mp hes)
      exact ⟨e, he, ih.mpr ⟨rest, mapM_eq_ok.mpr hrest, rfl⟩⟩

theorem load_eq_ok : (load v).result = .ok g ↔ ∃ entries es, entriesOf v = .ok entries ∧
    entries.mapM readEntry = .ok es ∧ g = Graph.ofEntities es := by
  have hentries {entries : List Entry} :
      (entriesOf v).mapError Fault.schema = .ok entries ↔ entriesOf v = .ok entries := by
    cases entriesOf v <;> simp [Except.mapError]
  constructor
  · intro h
    obtain ⟨entries, hv, h⟩ := Logged.result_bind_eq_ok.mp h
    obtain ⟨es, hes, hg⟩ := addEntries_eq_ok.mp h
    exact ⟨entries, es, hentries.mp hv, hes, hg⟩
  · rintro ⟨entries, es, hv, hes, hg⟩
    exact Logged.result_bind_eq_ok.mpr
      ⟨entries, hentries.mpr hv, addEntries_eq_ok.mpr ⟨es, hes, hg⟩⟩

end Schema.Export

end SchemaJoins
