import SchemaJoins.Yaml.Kind

/-! # Nodes

The tree of a document. An alias is replaced by the node that it names; only an
alias inside the collection that it names stays, and is unfolded a few times.
-/

namespace SchemaJoins.Yaml

inductive Node where
  | scalar (kind : Kind) (text : String)
  | sequence (kind : Kind) (items : List Node)
  | mapping (kind : Kind) (entries : List (Node × Node))
  /-- The collection around this place with the anchor. -/
  | inside (anchor : String)
  deriving Repr, Inhabited

namespace Node

def kind : Node → Kind
  | scalar k _ => k
  | sequence k _ => k
  | mapping k _ => k
  | inside _ => .unknown

mutual

def fill (anchor : String) (node : Node) : Node → Node
  | scalar k s => scalar k s
  | sequence k xs => sequence k (fillAll anchor node xs)
  | mapping k es => mapping k (fillEntries anchor node es)
  | inside a => if a = anchor then node else inside a

def fillAll (anchor : String) (node : Node) : List Node → List Node
  | [] => []
  | x :: xs => fill anchor node x :: fillAll anchor node xs

def fillEntries (anchor : String) (node : Node) : List (Node × Node) → List (Node × Node)
  | [] => []
  | e :: es => fillEntry anchor node e :: fillEntries anchor node es

def fillEntry (anchor : String) (node : Node) : Node × Node → Node × Node
  | (k, v) => (fill anchor node k, fill anchor node v)

end

mutual

def refersTo (anchor : String) : Node → Bool
  | scalar .. => false
  | sequence _ xs => anyRefersTo anchor xs
  | mapping _ es => anyEntryRefersTo anchor es
  | inside a => a == anchor

def anyRefersTo (anchor : String) : List Node → Bool
  | [] => false
  | x :: xs => x.refersTo anchor || anyRefersTo anchor xs

def anyEntryRefersTo (anchor : String) : List (Node × Node) → Bool
  | [] => false
  | e :: es => entryRefersTo anchor e || anyEntryRefersTo anchor es

def entryRefersTo (anchor : String) : Node × Node → Bool
  | (k, v) => k.refersTo anchor || v.refersTo anchor

end

def emptied : Node → Node
  | sequence k _ => sequence k []
  | mapping k _ => mapping k []
  | n => n

/-- How often a collection that contains itself is unfolded. -/
def unfoldings : Nat := 3

/-- Unfolds a collection that contains itself; the innermost copy is empty. -/
def unfold (anchor : String) (n : Node) : Node :=
  if n.refersTo anchor then
    (List.range unfoldings).foldl (fun inner _ => fill anchor inner n) n.emptied
  else n

end Node

end SchemaJoins.Yaml
