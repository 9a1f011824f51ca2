import SchemaJoins.Text.LineEnd
import SchemaJoins.Yaml.Compose
import SchemaJoins.Yaml.Item
import SchemaJoins.Yaml.Layout

/-! # Reading documents

`Yaml.read` gives the value of the document in a text. A text that is ill formed
anywhere has no value; otherwise the first flaw among its items counts, where a
collection is opened after all those that lie less deep.
-/

namespace SchemaJoins.Yaml

namespace Item

def isCollection : Item → Bool
  | scalar _ => false
  | _ => true

def ownFlaw : Item → Option Flaw
  | scalar (.error f) => some f
  | _ => none

def entriesFlaw (keys : Bool) (entries : List (Item × Item)) : Option Flaw :=
  entries.findSome? fun (k, v) =>
    k.ownFlaw.or ((if keys && k.isCollection then some .illFormed else none).or v.ownFlaw)

/-- The first flaw of each level of two neighbours. -/
def levelwise : List (Option Flaw) → List (Option Flaw) → List (Option Flaw)
  | [], ys => ys
  | xs, [] => xs
  | x :: xs, y :: ys => x.or y :: levelwise xs ys

mutual

/-- The first flaw inside a collection, by level. -/
def flaws : Item → List (Option Flaw)
  | scalar _ => []
  | flawed => [some .illFormed]
  | list xs => xs.findSome? ownFlaw :: flawsOfAll xs
  | map es => entriesFlaw true es :: flawsOfEntries es
  | set es => entriesFlaw true es :: flawsOfEntries es
  | pairs es => entriesFlaw false es :: flawsOfEntries es

def flawsOfAll : List Item → List (Option Flaw)
  | [] => []
  | x :: xs => levelwise (flaws x) (flawsOfAll xs)

def flawsOfEntries : List (Item × Item) → List (Option Flaw)
  | [] => []
  | e :: es => levelwise (flawsOfEntry e) (flawsOfEntries es)

def flawsOfEntry : Item × Item → List (Option Flaw)
  | (k, v) => levelwise (flaws k) (flaws v)

end

def firstFlaw (x : Item) : Option Flaw := x.ownFlaw.or (x.flaws.findSome? id)

def distinct (xs : List Value) : List Value :=
  xs.foldl (fun ys x => if ys.any (Value.sameKey · x) then ys else ys ++ [x]) []

mutual

def value : Item → Value
  | scalar (.ok v) => v
  | scalar (.error _) => .null
  | flawed => .null
  | list xs => .list (values xs)
  | map es => .map (Value.ofPairs (entryValues es))
  | set es => .set (distinct ((entryValues es).map (·.1)))
  | pairs es => .list ((entryValues es).map fun (k, v) => .tuple [k, v])

def values : List Item → List Value
  | [] => []
  | x :: xs => value x :: values xs

def entryValues : List (Item × Item) → List (Value × Value)
  | [] => []
  | e :: es => entryValue e :: entryValues es

def entryValue : Item × Item → Value × Value
  | (k, v) => (value k, value v)

end

end Item

/-- The value of the document in a text; a text without one has no value in it. -/
def read (text : String) : Except Flaw Value := do
  match ← compose (tokens (Text.unifyLineEnds text.toList)) with
  | none => return .null
  | some root =>
      let item := root.item
      match item.firstFlaw with
      | some f => .error f
      | none => return item.value

end SchemaJoins.Yaml
