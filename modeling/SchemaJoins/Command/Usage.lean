import SchemaJoins.Data.Display

/-! # Faults of usage

What can be wrong with the arguments that a command is called with.
-/

namespace SchemaJoins.Command

inductive ValueFault where
  | notInteger (given : String)
  | notChoice (given : String) (choices : List String)
  | noPath (given : String)
  deriving DecidableEq, Repr

def ValueFault.message : ValueFault → String
  | notInteger given => quoted given ++ " is not a valid integer."
  | notChoice given choices =>
      quoted given ++ " is not one of " ++ ", ".intercalate (choices.map quoted) ++ "."
  | noPath given => "Path " ++ quoted given ++ " does not exist."

inductive UsageFault where
  | noOption (given : String) (similar : List String)
  | valueMissing (spelling : String)
  | valueUnwanted (spelling : String)
  | value (place : String) (f : ValueFault)
  | argumentMissing (name : String)
  | argumentsExtra (arguments : List String)
  | commandMissing
  | noCommand (given : String)
  | nothingToValidate
  deriving DecidableEq, Repr

def hint : List String → String
  | [] => ""
  | [option] => " Did you mean " ++ option ++ "?"
  | options => " (Possible options: " ++ ", ".intercalate options ++ ")"

def UsageFault.message : UsageFault → String
  | noOption given similar => "No such option: " ++ given ++ hint similar
  | valueMissing spelling => "Option " ++ quoted spelling ++ " requires an argument."
  | valueUnwanted spelling => "Option " ++ quoted spelling ++ " does not take a value."
  | value place f => "Invalid value for '" ++ place ++ "': " ++ f.message
  | argumentMissing name => "Missing argument '" ++ name ++ "'."
  | argumentsExtra [argument] => "Got unexpected extra argument (" ++ argument ++ ")"
  | argumentsExtra arguments =>
      "Got unexpected extra arguments (" ++ " ".intercalate arguments ++ ")"
  | commandMissing => "Missing command."
  | noCommand given => "No such command " ++ quoted given ++ "."
  | nothingToValidate => "Provide domain files and/or --test_references"

end SchemaJoins.Command
