import SchemaJoins.Data.Order
import SchemaJoins.Schema.Entity
import SchemaJoins.Text.Lowercase

/-! # Schema graphs

The entities of a schema, at most one of each name. An entity that is added
again takes the place of the earlier one.
-/

namespace SchemaJoins.Schema

structure Graph where
  entities : List Entity
  nodup : (entities.map (·.name)).Nodup

namespace Graph

/-- Puts an entity in the place of the one of its name, or at the end. -/
def place (e : Entity) : List Entity → List Entity
  | [] => [e]
  | x :: xs => if x.name = e.name then e :: xs else x :: place e xs

theorem mem_names_place {e : Entity} {n : String} : {es : List Entity} →
    (n ∈ (place e es).map (·.name) ↔ n ∈ es.map (·.name) ∨ n = e.name)
  | [] => by simp [place]
  | x :: xs => by
    by_cases h : x.name = e.name
    · simp only [place, h, if_true, List.map_cons, List.mem_cons]
      grind
    · simp only [place, h, if_false, List.map_cons, List.mem_cons, mem_names_place]
      grind

theorem nodup_place (e : Entity) : {es : List Entity} → (es.map (·.name)).Nodup →
    ((place e es).map (·.name)).Nodup
  | [], _ => by simp [place]
  | x :: xs, h => by
    obtain ⟨hx, hxs⟩ := List.nodup_cons.mp h
    by_cases hn : x.name = e.name
    · simp only [place, hn, if_true, List.map_cons]
      exact List.nodup_cons.mpr ⟨hn ▸ hx, hxs⟩
    · simp only [place, hn, if_false, List.map_cons]
      refine List.nodup_cons.mpr ⟨fun hm => ?_, nodup_place e hxs⟩
      exact (mem_names_place.mp hm).elim hx hn

def empty : Graph := ⟨[], List.nodup_nil⟩

instance : Inhabited Graph := ⟨empty⟩

def add (g : Graph) (e : Entity) : Graph := ⟨place e g.entities, nodup_place e g.nodup⟩

def find? (g : Graph) (name : String) : Option Entity := g.entities.find? (·.name == name)

def findValue? (g : Graph) (name : Value) : Except Fault (Option Entity) := do
  name.requireHashable
  match name with
  | .text s => return g.find? s
  | _ => return none

def order (g : Graph) : List String := g.entities.map (·.name)

def names (g : Graph) : List String := sortTexts g.order

def sorted (g : Graph) : List Entity := g.names.filterMap g.find?

def require (g : Graph) (name : String) : Except Fault Entity :=
  match g.find? name with
  | some e => .ok e
  | none => .error (.unknownEntity name g.names)

def spellings (e : Entity) : Except Fault (List Value) := do
  return [.text (Text.lower e.name), ← e.sourceName.lowered Text.lower]

/-- The entity with the smallest name among those that a candidate spells, for
the first candidate that spells one. -/
def findByName? (g : Graph) (candidates : List String) : Except Fault (Option Entity) := do
  let table ← g.sorted.mapM fun e => do return (e, ← spellings e)
  return candidates.findSome? fun c =>
    (table.find? fun row => row.2.any (Value.sameKey (.text (Text.lower c)))).map (·.1)

def toValue (g : Graph) : Value :=
  .record [("entities", .list (g.sorted.map Entity.toValue))]

def ofEntities (es : List Entity) : Graph := es.foldl add empty

def ofValue (v : Value) : Except Fault Graph := do
  let entries ← ((← v.get? "entities").getD (.list [])).items
  return ofEntities (← entries.mapM Entity.ofValue)

end Graph

end SchemaJoins.Schema
