import SchemaJoins.Schema.Association
import SchemaJoins.Schema.Field

/-! # Entities -/

namespace SchemaJoins.Schema

structure Entity where
  name : String
  table : Value := .null
  fields : List Field := []
  primaryKey : List String := ["id"]
  associations : List Association := []
  /-- `none` when the export says nothing about indexes. -/
  indexes : Option (List (List String)) := none
  deriving Repr, Inhabited, BEq

namespace Entity

/-- The name in storage: the table, or the name of the entity. -/
def sourceName (e : Entity) : Value := if e.table.isTrue then e.table else .text e.name

def fieldNames (e : Entity) : List String := e.fields.map (·.name)

def hasField (e : Entity) (name : String) : Bool := e.fieldNames.contains name

def field? (e : Entity) (name : String) : Option Field := e.fields.find? (·.name == name)

def association? (e : Entity) (name : String) : Option Association :=
  e.associations.find? (·.name == name)

def isCovered (columns : List String) (indexes : List (List String)) : Bool :=
  indexes.any fun index => columns.isPrefixOf index

def isIndexed? (e : Entity) (columns : List String) : Option Bool :=
  e.indexes.map (isCovered columns)

def firstField? (e : Entity) (candidates : List String) : Option String :=
  candidates.find? e.hasField

def ofValue (v : Value) : Except Fault Entity := do
  let indexes ← v.getOrNull "indexes"
  let name := (← v.item "name").display
  let table ← v.getOrNull "table"
  let table ← if table.isTrue then pure table else v.getOrNull "source"
  let fields ← (← ((← v.get? "fields").getD (.list [])).items).mapM Field.ofValue
  let primaryKey ← keyOf ((← v.get? "primary_key").getD (.text "id"))
  let associations ← (← ((← v.get? "associations").getD (.list [])).items).mapM Association.ofValue
  let indexes ← match indexes with
    | .null => pure none
    | w => do pure (some (← (← w.items).mapM keyOf))
  return { name, table, fields, primaryKey, associations, indexes }

def toValue (e : Entity) : Value :=
  .record [("name", .text e.name), ("table", e.table),
    ("fields", .list (e.fields.map Field.toValue)), ("primary_key", keyValue e.primaryKey),
    ("associations", .list (e.associations.map Association.toValue)),
    ("indexes", (e.indexes.map fun is => Value.list (is.map keyValue)).getD .null)]

end Entity

end SchemaJoins.Schema
