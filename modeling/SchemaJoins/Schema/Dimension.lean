import SchemaJoins.Schema.Graph

/-! # Dimensions

Advisory heuristics. An entity with two or more indicators looks like a
dimension of a star schema; one with a history companion, or with the name of a
companion, looks like a dimension whose rows change over time.
-/

namespace SchemaJoins.Schema

inductive Dimension where
  | star (entity : String) (table : Value) (indicators hierarchyLevels members : List String)
  | changing (entity : String) (table : Value) (companion : Option String)
      (naturalKey surrogateKey : String) (validFrom validTo isCurrent : Option String)
      (changeTracking : List String)
  deriving Repr, Inhabited, BEq

namespace Dimension

def surrogateKeyFields : List String := ["dimension_key", "surrogate_key", "business_key"]

def validityBrackets : List (String × String) :=
  [("valid_from", "valid_to"), ("effective_date", "expiry_date"),
    ("effective_from", "effective_to")]

def currentFlagFields : List String := ["is_current", "current_flag", "version", "row_version"]

def nameEndings : List String := ["dim", "dimension"]

def naturalKeyFields : List String :=
  ["business_key", "natural_key", "code", "sku", "email", "username"]

def validFromFields : List String :=
  ["valid_from", "effective_date", "effective_from", "created_at"]

def validToFields : List String := ["valid_to", "expiry_date", "effective_to", "end_date"]

def isCurrentFields : List String := ["is_current", "current_flag", "active"]

def changeTrackingFields : List String :=
  ["change_reason", "change_type", "modified_by", "audit_action"]

def companionEndings : List String :=
  ["_history", "History", "_dim", "Dim", "_dimension", "Dimension"]

def ownEndings : List String := ["History", "_history", "Dimension", "_dimension"]

def levelMarkers : List String := ["level", "tier", "category", "group"]

def technicalFields : List String := ["id", "inserted_at", "updated_at", "created_at"]

def endsWith (s ending : String) : Bool := ending.toList.isSuffixOf s.toList

def isInfix (part : List Char) : List Char → Bool
  | [] => part.isEmpty
  | c :: cs => part.isPrefixOf (c :: cs) || isInfix part cs

/-- The name has one of the endings, in any case. Bytes have no endings that are texts. -/
def hasNameEnding (name : Value) : Except Fault Bool := do
  match ← name.lowered Text.lower with
  | .text s => return nameEndings.any (endsWith s)
  | _ => .error .textEnding

/-- The indicators that an entity matches. Its storage name is asked for an ending only
if its name has none. -/
def indicators (e : Entity) : Except Fault (List String) := do
  let named ← [.text e.name, e.sourceName].anyM hasNameEnding
  let marks := [
    ("surrogate_key", (e.firstField? surrogateKeyFields).isSome),
    ("scd_bracket", validityBrackets.any fun (a, b) => e.hasField a && e.hasField b),
    ("current_flag", (e.firstField? currentFlagFields).isSome),
    ("name_suffix", named)]
  return (marks.filter (·.2)).map (·.1)

def companionNames (e : Entity) : List String :=
  [e.name, e.sourceName.display].flatMap fun base => companionEndings.map (base ++ ·)

def companion? (g : Graph) (e : Entity) : Except Fault (Option String) := do
  let found ← g.findByName? ((companionNames e).filter (· != e.name))
  return (found.map (·.name)).filter (· != e.name)

def changingOf (e : Entity) (companion : Option String) : Dimension :=
  let surrogate := e.primaryKey.head?.getD "id"
  .changing e.name e.sourceName companion ((e.firstField? naturalKeyFields).getD surrogate)
    surrogate (e.firstField? validFromFields) (e.firstField? validToFields)
    (e.firstField? isCurrentFields) (e.fieldNames.filter changeTrackingFields.contains)

def isLevel (field : String) : Bool :=
  levelMarkers.any fun marker => isInfix marker.toList (Text.lower field).toList

def isDescriptive (e : Entity) (field : String) : Bool :=
  !technicalFields.contains field && !e.primaryKey.contains field &&
    !endsWith field "_id" && !endsWith field "_key"

def detect (g : Graph) (e : Entity) : Except Fault (List Dimension) := do
  let companion ← companion? g e
  let changing := companion.any (!·.isEmpty) || ownEndings.any (endsWith e.name)
  let marks ← indicators e
  return (if changing then [changingOf e companion] else []) ++
    (if 2 ≤ marks.length then
      [.star e.name e.sourceName marks (e.fieldNames.filter isLevel)
        (e.fieldNames.filter (isDescriptive e))]
    else [])

def optionalText (s : Option String) : Value := (s.map Value.text).getD .null

def toValue : Dimension → Value
  | star entity table indicators levels members =>
      .record [("kind", .text "star_dimension"), ("entity", .text entity), ("table", table),
        ("indicators", Value.texts indicators), ("hierarchy_levels", Value.texts levels),
        ("attributes", Value.texts members)]
  | changing entity table companion naturalKey surrogateKey validFrom validTo isCurrent tracking =>
      .record [("kind", .text "scd_type2"), ("entity", .text entity), ("table", table),
        ("companion", optionalText companion), ("natural_key", .text naturalKey),
        ("surrogate_key", .text surrogateKey), ("valid_from", optionalText validFrom),
        ("valid_to", optionalText validTo), ("is_current", optionalText isCurrent),
        ("change_tracking", Value.texts tracking)]

end Dimension

end SchemaJoins.Schema
