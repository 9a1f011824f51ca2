import SchemaJoins.Data.Access
import SchemaJoins.Validation.Report

/-! # Checking joins mappings

The mapping is walked depth first along its nested joins. Every join with
parameters is checked by itself; `Validation.check` collects all violations and
declares the joins that have none.
-/

namespace SchemaJoins.Validation

/-- The joins found below a path and the violations of shape on the way. -/
structure Findings where
  details : List Detail
  issues : List Issue

def Findings.empty : Findings := ⟨[], []⟩

def Findings.append (a b : Findings) : Findings := ⟨a.details ++ b.details, a.issues ++ b.issues⟩

instance : Append Findings := ⟨Findings.append⟩

def Findings.issue (category : Category) (message : String) : Findings :=
  ⟨[], [⟨category, message⟩]⟩

/-- The name of a join in a path: a text stands for itself. -/
def joinName : Value → String
  | .text s => s
  | v => v.literal

def pathText (path : List String) : String := ".".intercalate path

def detail? (name : String) (path : List String) (config : List (Value × Value)) : Option Detail :=
  (Value.find? config (.text "parameters")).map fun parameters =>
    { name
      path := pathText path
      parameters
      fields := (Value.find? config (.text "fields")).getD (.map [])
      condition := (Value.find? config (.text "join_condition")).getD .null }

mutual

def collect (path : List String) : List (Value × Value) → Findings
  | [] => .empty
  | (name, config) :: rest =>
      collectJoin (joinName name) (path ++ [joinName name]) config ++ collect path rest

def collectJoin (name : String) (path : List String) : Value → Findings
  | .map config => ⟨(detail? name path config).toList, []⟩ ++ collectNested path config
  | _ => .issue .shape ("Join '" ++ pathText path ++ "' configuration is not a map")

def collectNested (path : List String) : List (Value × Value) → Findings
  | [] => .empty
  | (key, nested) :: rest =>
      if Value.sameKey key (.text "joins") then
        match nested with
        | .map joins => collect path joins
        | _ => .issue .shape
            ("Join '" ++ pathText path ++ "' has invalid nested joins configuration (expected map)")
      else collectNested path rest

end

def asSequence? : Value → Option (List Value)
  | .list xs => some xs
  | .tuple xs => some xs
  | _ => none

def lookup (entries : List (Value × Value)) (key : String) : Value :=
  (Value.find? entries (.text key)).getD .null

def parameterName? (entries : List (Value × Value)) : Option String :=
  match lookup entries "name" with
  | .text s => if Text.isIdentifier s.toList then some s else none
  | _ => none

def isTypeName (allowed : List String) : Value → Bool
  | .text s => allowed.contains s
  | _ => false

def isFlag : Value → Bool
  | .bool _ => true
  | _ => false

def parameterIssues (path : String) (position : Nat) : Value → List String
  | .map entries =>
      let name := lookup entries "name"
      let typeName := lookup entries "type"
      let required := (Value.find? entries (.text "required")).getD (.bool false)
      let about := "Join '" ++ path ++ "' parameter "
      (if (parameterName? entries).isSome then []
        else [about ++ toString position ++ " is missing an identifier name"]) ++
      (if isTypeName ParameterType.names typeName then []
        else [about ++ name.literal ++ " has unsupported type " ++ typeName.literal]) ++
      (if isFlag required then [] else [about ++ name.literal ++ " has non-boolean required"])
  | _ => ["Join '" ++ path ++ "' parameter " ++ toString position ++ " is not a map"]

def validNames (parameters : List Value) : List String :=
  parameters.filterMap fun p =>
    match p with
    | .map entries => parameterName? entries
    | _ => none

def parametersIssues (d : Detail) : List Issue :=
  let messages :=
    match asSequence? d.parameters with
    | none => ["Join '" ++ d.path ++ "' has invalid parameters (expected list)"]
    | some parameters =>
        (parameters.zipIdx 1).flatMap (fun (p, i) => parameterIssues d.path i p) ++
          (repeatedTexts (validNames parameters)).map fun name =>
            "Join '" ++ d.path ++ "' defines duplicate parameter '" ++ name ++ "'"
  messages.map (⟨.parameters, ·⟩)

def fieldIssues (path : String) (name config : Value) : List String :=
  match config with
  | .map entries =>
      let typeName := lookup entries "type"
      if isTypeName ParameterType.fieldNames typeName then []
      else ["Join '" ++ path ++ "' field " ++ name.literal ++ " has unsupported type " ++
        typeName.literal]
  | _ => ["Join '" ++ path ++ "' field " ++ name.literal ++ " config is not a map"]

def fieldsIssues (d : Detail) : List Issue :=
  let messages :=
    match d.fields with
    | .map [] => ["Join '" ++ d.path ++ "' should define at least one field in fields"]
    | .map fields => fields.flatMap fun (name, config) => fieldIssues d.path name config
    | _ => ["Join '" ++ d.path ++ "' has invalid fields (expected map)"]
  messages.map (⟨.fieldTypes, ·⟩)

/-- The names that a condition may mention: the texts among the names of the
parameters. -/
def declaredNames (parameters : Value) : List String :=
  ((asSequence? parameters).getD []).filterMap fun p =>
    match p with
    | .map entries =>
        match lookup entries "name" with
        | .text s => some s
        | _ => none
    | _ => none

def conditionIssues (d : Detail) : List Issue :=
  let messages :=
    match d.condition with
    | .null => []
    | .text condition =>
        let declared := declaredNames d.parameters
        ((Placeholder.find condition).filter fun p => !declared.contains p).map fun p =>
          "Join '" ++ d.path ++ "' join_condition references unknown parameter :" ++ p
    | _ => ["Join '" ++ d.path ++ "' has invalid join_condition (expected string)"]
  messages.map (⟨.joinConditions, ·⟩)

def detailIssues (d : Detail) : List Issue :=
  parametersIssues d ++ fieldsIssues d ++ conditionIssues d

def asText : Value → Except Fault String
  | .text s => .ok s
  | v => .error (.notText 0 v.kind)

def buildParameter (v : Value) : Except Fault Parameter := do
  let name ← asText (← v.item "name")
  let typeName ← asText (← v.item "type")
  let required := ((← v.get? "required").getD (.bool false)).isTrue
  let default ← v.getOrNull "default"
  return { name, typeName, required, default }

/-- The fields of a declaration; names that read the same are one field. -/
def buildFields (fields : List (Value × Value)) : Except Fault (List (String × String)) :=
  fields.foldlM (fun built (name, config) => do
    let typeName ← asText (← config.item "type")
    let key := name.display
    return if built.any (·.1 == key) then
        built.map fun f => if f.1 == key then (key, typeName) else f
      else built ++ [(key, typeName)]) []

def declare (d : Detail) : Except Fault Declaration := do
  let parameters ← ((asSequence? d.parameters).getD []).mapM buildParameter
  let fields ← buildFields (← d.fields.asMap)
  let condition := match d.condition with
    | .text s => some s
    | _ => none
  Declaration.check { name := d.name, path := d.path, parameters, fields, condition }

def entry (d : Detail) : Except Fault Entry :=
  if (detailIssues d).isEmpty then do
    return ⟨d, some (← declare d)⟩
  else .ok ⟨d, none⟩

def check (joins : List (Value × Value)) : Except Fault Report := do
  let found := collect [] joins
  let entries ← found.details.mapM entry
  return ⟨entries, found.details.flatMap detailIssues ++ found.issues, true⟩

def checkValue (v : Value) : Except Fault Report :=
  match v with
  | .map joins => check joins
  | _ => .error (.noAttribute v.kind "items")

end SchemaJoins.Validation
