import SchemaJoins.Data.Logged
import SchemaJoins.Relationship.Basic
import SchemaJoins.Relationship.Hierarchy
import SchemaJoins.Schema.Graph

/-! # Classifying associations

Every association of an entity becomes a relationship, or is skipped with a
warning when its kind is unknown or its junction is incomplete. Keys that an
association leaves open follow from the names of the entities.
-/

namespace SchemaJoins

namespace Text

def endsWithAny (s : String) (endings : List String) : Bool :=
  endings.any fun e => e.toList.isSuffixOf s.toList

def dropLast (s : String) (n : Nat) : String := String.ofList (s.toList.take (s.length - n))

def singularize (name : String) : String :=
  let s := lower name
  if endsWithAny s ["ies"] && decide (3 < s.length) then dropLast s 3 ++ "y"
  else if endsWithAny s ["sses", "xes", "ches", "shes"] then dropLast s 2
  else if endsWithAny s ["s"] && !endsWithAny s ["ss"] then dropLast s 1
  else s

end Text

namespace Relationship

open Schema

def declaredKind? (kind : String) : Option Cardinality :=
  match Text.lower kind with
  | "belongs_to" | "many_to_one" => some (.direct .belongsTo)
  | "has_one" | "one_to_one" => some (.direct .hasOne)
  | "has_many" | "one_to_many" => some (.direct .hasMany)
  | "many_to_many" => some .manyToMany
  | _ => none

def referenceColumn (entity : String) : String := Text.singularize entity ++ "_id"

def keyOr (key default : List String) : List String := if key.isEmpty then default else key

/-- The primary key of the related entity; an unknown entity has the key `id`. -/
def relatedPrimaryKey (g : Graph) (a : Association) : List String :=
  ((g.find? a.relatedEntity).map (·.primaryKey)).getD ["id"]

/-- The entity between the two sides: the one that is named, or the first step
of the path. -/
def junctionOf (a : Association) : Value :=
  if a.junctionEntity.isTrue then a.junctionEntity
  else (a.throughPath.head?.map Value.text).getD .null

def junctionColumns (e : Entity) (a : Association) : String × String :=
  a.junctionKeys.getD (referenceColumn e.name, referenceColumn a.relatedEntity)

def skipped (e : Entity) (a : Association) (reason : String) : String :=
  "Skipping many-to-many " ++ e.name ++ "." ++ a.name ++ ": " ++ reason

def along (e : Entity) (a : Association) (shape : Shape) : Relationship :=
  { name := .text a.name, source := .text e.name, target := .text a.relatedEntity,
    throughPath := a.throughPath, shape }

def classifyThrough (g : Graph) (e : Entity) (a : Association) : Logged (Option Relationship) :=
  let junction := junctionOf a
  if !junction.isTrue then do
    Logged.warn (skipped e a "no junction entity reported")
    return none
  else
    let (ownerSide, relatedSide) := junctionColumns e a
    match throughJunction (.text a.name) junction (.text ownerSide) (.text relatedSide)
        (keyOr a.ownerKey e.primaryKey) (keyOr a.relatedKey (relatedPrimaryKey g a)) with
    | .ok shape => return some (along e a shape)
    | .error f => do
        Logged.warn (skipped e a f.message)
        return none

def directKeys (g : Graph) (e : Entity) (a : Association) : DirectKind → List String × List String
  | .belongsTo => (keyOr a.ownerKey [a.name ++ "_id"], keyOr a.relatedKey (relatedPrimaryKey g a))
  | .hasOne | .hasMany =>
      (keyOr a.ownerKey e.primaryKey, keyOr a.relatedKey [referenceColumn e.name])

def classifyDirect (g : Graph) (e : Entity) (a : Association) (kind : DirectKind) : Relationship :=
  let (ownerKey, relatedKey) := directKeys g e a kind
  along e a <|
    if a.relatedEntity = e.name then
      .selfReference kind (Hierarchy.detect e (referenceKey kind ownerKey relatedKey))
        ownerKey relatedKey
    else .direct kind ownerKey relatedKey

def classifyAssociation (g : Graph) (e : Entity) (a : Association) :
    Logged (Option Relationship) :=
  match declaredKind? a.kind with
  | some (.direct kind) => return some (classifyDirect g e a kind)
  | some _ => classifyThrough g e a
  | none => do
      Logged.warn ("Skipping association " ++ e.name ++ "." ++ a.name ++ ": unknown kind '" ++
        a.kind ++ "'")
      return none

def classifyEach (g : Graph) (e : Entity) : List Association → Logged (List Relationship)
  | [] => return []
  | a :: rest => do
      let r ← classifyAssociation g e a
      return r.toList ++ (← classifyEach g e rest)

def ofEntity (g : Graph) (e : Entity) : Logged (List Relationship) :=
  classifyEach g e e.associations

def classify (g : Graph) (name : String) : Logged (List Relationship) := do
  ofEntity g (← g.require name)

def ofEntities (g : Graph) : List Entity → Logged (List Relationship)
  | [] => return []
  | e :: rest => do return (← ofEntity g e) ++ (← ofEntities g rest)

def ofGraph (g : Graph) : Logged (List Relationship) := ofEntities g g.sorted

end Relationship

end SchemaJoins
