import SchemaJoins.Data.Logged
import SchemaJoins.Schema.Graph

/-! # Schema exports

An export lists its entities, or maps their names to them. A name that comes
again replaces the earlier entity and is warned about; an entry that cannot be
read stops the loading.
-/

namespace SchemaJoins.Schema.Export

/-- A mapping entry with its name in front; a name inside the entry wins. -/
def namedEntry (name : Value) (fields : List (Value × Value)) : List (Value × Value) :=
  Value.ofPairs ((.text "name", name) :: fields)

def listEntries : Nat → List Value → Except ExportFault (List (List (Value × Value)))
  | _, [] => .ok []
  | position, .map fields :: rest => do return fields :: (← listEntries (position + 1) rest)
  | position, _ :: _ => .error (.itemNotMapping position)

def mappingEntries : List (Value × Value) → Except ExportFault (List (List (Value × Value)))
  | [] => .ok []
  | (name, .map fields) :: rest => do return namedEntry name fields :: (← mappingEntries rest)
  | (name, _) :: _ => .error (.entryNotMapping name.display)

def entriesOf : Value → Except ExportFault (List (List (Value × Value)))
  | .map es =>
      match (Value.find? es (.text "entities")).getD .null with
      | .null => .error .noEntities
      | .map entries => mappingEntries entries
      | .list entries => listEntries 1 entries
      | v => .error (.entitiesKind v.shortKind)
  | _ => .error .notMapping

/-- What is said of an entry that cannot be read. A fault that is not about a value
is none of the entry's. -/
def entryFault (entry : List (Value × Value)) (f : Fault) : Fault :=
  let name := ((Value.find? entry (.text "name")).getD (.text "?")).literal
  match f with
  | .missingKey key => .schema (.missingKey name key.literal)
  | f => if f.isAboutValue then .schema (.malformed name f.message) else f

def readEntry (entry : List (Value × Value)) : Except Fault Entity :=
  (Entity.ofValue (.map entry)).mapError (entryFault entry)

def addEntries (g : Graph) : List (List (Value × Value)) → Logged Graph
  | [] => return g
  | entry :: rest => do
      let e ← readEntry entry
      if (g.find? e.name).isSome then
        Logged.warn ("Duplicate entity '" ++ e.name ++ "' in schema export, keeping the last")
      addEntries (g.add e) rest

def load (v : Value) : Logged Graph := do
  addEntries .empty (← (entriesOf v).mapError Fault.schema)

end SchemaJoins.Schema.Export
