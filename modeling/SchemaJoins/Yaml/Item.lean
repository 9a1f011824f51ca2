import SchemaJoins.Yaml.Node
import SchemaJoins.Yaml.Scalar

/-! # What nodes stand for

An item is a node by the value that it stands for. The entries under a merge key
stand before those of the mapping itself, so that the latter win. A flaw stays at
its place, because the first one counts: collections are opened level by level.
-/

namespace SchemaJoins.Yaml

inductive Item where
  | scalar (value : Except Flaw Value)
  | list (items : List Item)
  | map (entries : List (Item × Item))
  | set (entries : List (Item × Item))
  /-- A list of pairs. -/
  | pairs (entries : List (Item × Item))
  /-- A collection that is found flawed when it is opened. -/
  | flawed

namespace Node

/-- The text of a scalar, or of the value under the key `=`. -/
def text? : Node → Option String
  | scalar _ s => some s
  | mapping _ es => entriesText? es
  | _ => none
where
  entriesText? : List (Node × Node) → Option String
    | [] => none
    | (k, v) :: es => if k.kind = .value then v.text? else entriesText? es

structure Gathered where
  merged : List (Item × Item) := []
  own : List (Item × Item) := []

def Gathered.all (g : Gathered) : List (Item × Item) := g.merged ++ g.own

def collected (make : List (Item × Item) → Item) : Option Gathered → Item
  | some g => make g.all
  | none => .flawed

mutual

def item : Node → Item
  | scalar k s => .scalar (Scalar.value k s)
  | inside _ => .flawed
  | sequence k xs =>
      match k with
      | .sequence => .list (items xs)
      | .orderedMap | .pairs =>
          match pairItems xs with
          | some es => .pairs es
          | none => .flawed
      | .mapping | .set => .flawed
      | _ => .scalar (.error .illFormed)
  | mapping k es =>
      match k with
      | .mapping => collected .map (gather es)
      | .set => collected .set (gather es)
      | .sequence | .orderedMap | .pairs => .flawed
      | k =>
          match text? (mapping k es) with
          | some s => .scalar (Scalar.value k s)
          | none => .scalar (.error .illFormed)

def items : List Node → List Item
  | [] => []
  | x :: xs => item x :: items xs

def pairItems : List Node → Option (List (Item × Item))
  | [] => some []
  | mapping _ [e] :: xs => (pairItems xs).map (entryItem e :: ·)
  | _ => none

def entryItem : Node × Node → Item × Item
  | (k, v) => (item k, item v)

/-- The entries of a mapping, if the values under its merge keys are mappings or
lists of mappings. The key `=` is a text here. -/
def gather : List (Node × Node) → Option Gathered
  | [] => some {}
  | e :: es =>
      match gatherEntry e, gather es with
      | some g, some h => some ⟨g.merged ++ h.merged, g.own ++ h.own⟩
      | _, _ => none

def gatherEntry : Node × Node → Option Gathered
  | (scalar .value s, v) => some { own := [(.scalar (.ok (.text s)), item v)] }
  | (k, v) =>
      if k.kind = .merge then (mergedFrom v).map fun es => { merged := es }
      else some { own := [(item k, item v)] }

def mergedFrom : Node → Option (List (Item × Item))
  | mapping _ es => (gather es).map (·.all)
  | sequence _ xs => mergedFromAll xs
  | _ => none

/-- Of several mappings the first one stands last, so that it wins. -/
def mergedFromAll : List Node → Option (List (Item × Item))
  | [] => some []
  | mapping _ es :: xs =>
      match gather es, mergedFromAll xs with
      | some g, some rest => some (rest ++ g.all)
      | _, _ => none
  | _ => none

end

end Node

end SchemaJoins.Yaml
