import SchemaJoins.Data.Logged
import SchemaJoins.Source.Joins
import SchemaJoins.Validation.Check

/-! # Checking domain files

Source text can hold integers that are too long to be written, those in base
sixteen, eight and two. A report that would have to show one cannot be made.
-/

namespace SchemaJoins.Validation

mutual

def joinNames : List (Value × Value) → List Value
  | [] => []
  | (name, config) :: rest => name :: (namesWithin config ++ joinNames rest)

def namesWithin : Value → List Value
  | .map config => nestedNames config
  | _ => []

def nestedNames : List (Value × Value) → List Value
  | [] => []
  | (key, nested) :: rest =>
      if Value.sameKey key (.text "joins") then
        match nested with
        | .map joins => joinNames joins
        | _ => []
      else nestedNames rest

end

def shownOfParameter : Value → List Value
  | .map entries =>
      let name := lookup entries "name"
      let typeName := lookup entries "type"
      (if isTypeName ParameterType.names typeName then [] else [name, typeName]) ++
        if isFlag ((Value.find? entries (.text "required")).getD (.bool false)) then [] else [name]
  | _ => []

def shownOfField (name config : Value) : List Value :=
  match config with
  | .map entries =>
      let typeName := lookup entries "type"
      if isTypeName ParameterType.fieldNames typeName then [] else [name, typeName]
  | _ => [name]

def fieldEntries : Value → List (Value × Value)
  | .map fields => fields
  | _ => []

/-- What is shown of a join: the names of the fields in its declaration, or parts of
what is wrong with it. -/
def shownOfDetail (d : Detail) : List Value :=
  if (detailIssues d).isEmpty then (fieldEntries d.fields).map (·.1)
  else ((asSequence? d.parameters).getD []).flatMap shownOfParameter ++
    (fieldEntries d.fields).flatMap fun (name, config) => shownOfField name config

def shownInReport (joins : List (Value × Value)) : List Value :=
  joinNames joins ++ (collect [] joins).details.flatMap shownOfDetail

def Report.unusable (message : String) : Report := ⟨[], [⟨.shape, message⟩], true⟩

/-- Checks the joins of a domain file. A file without joins has an empty report,
and joins that cannot be used break the rules of shape. -/
def checkContent (content : String) : Logged Report := do
  match ← Source.extractJoins content with
  | .absent => return .absent
  | .found joins =>
      if (shownInReport joins).all Value.isWritable then check joins
      else .fail .integerUnwritable
  | .failed f => do
      Logged.warn ("Could not extract joins: " ++ f.message)
      return .unusable f.message

end SchemaJoins.Validation
