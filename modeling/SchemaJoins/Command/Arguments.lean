import SchemaJoins.Command.Usage
import SchemaJoins.Files.Tree
import SchemaJoins.Number.Reading
import SchemaJoins.Text.Similarity

/-! # Arguments of a command

Options stand anywhere among the arguments, up to two dashes alone. An option
that takes a value takes the text behind an equals sign or the next argument;
one that is given twice has the last value. Values are checked in the order in
which their options are given, then the arguments are.
-/

namespace SchemaJoins.Command

inductive ValueKind where
  | text
  | integer
  | choice (choices : List String)
  | existingPath
  deriving DecidableEq, Repr

/-- An option, with its spellings. A spelling that needs no value sets the option
to a value of its own. -/
structure OptionRule where
  name : String
  spellings : List (String × Option String)
  kind : ValueKind := .text
  deriving Repr

inductive ArgumentRule where
  | none
  | onePath (name : String)
  | many
  deriving DecidableEq, Repr

structure Signature where
  options : List OptionRule
  arguments : ArgumentRule
  deriving Repr

structure Given where
  name : String
  value : String
  deriving DecidableEq, Repr

def helpRule : OptionRule := { name := "help", spellings := [("--help", some "")] }

/-- Options that are given alone show something in place of running the command. -/
def isRequest (name : String) : Bool := name == "help" || name == "version"

namespace Signature

def rules (s : Signature) : List OptionRule := s.options ++ [helpRule]

def find? (s : Signature) (spelling : String) : Option (String × Option String) :=
  s.rules.findSome? fun r => (r.spellings.lookup spelling).map fun v => (r.name, v)

def isLong (spelling : String) : Bool := "--".toList.isPrefixOf spelling.toList

def longSpellings (s : Signature) : List String :=
  (s.rules.flatMap fun r => r.spellings.map (·.1)).filter isLong

/-- The options given in one argument, and whether the next argument is the value
of the last of them. -/
abbrev Reading := Except UsageFault (List Given × Bool)

def takeValue (spelling name : String) (behind next : Option String) : Reading :=
  match behind, next with
  | some v, _ => .ok ([⟨name, v⟩], false)
  | none, some v => .ok ([⟨name, v⟩], true)
  | none, none => .error (.valueMissing spelling)

def readLetters (s : Signature) (next : Option String) : List Char → Reading
  | [] => .ok ([], false)
  | c :: cs =>
      let spelling := String.ofList ['-', c]
      match s.find? spelling with
      | none => .error (.noOption spelling [])
      | some (name, some v) => do
          let (given, used) ← readLetters s next cs
          return (⟨name, v⟩ :: given, used)
      | some (name, none) =>
          takeValue spelling name (if cs.isEmpty then none else some (String.ofList cs)) next

def splitValue (argument : String) : String × Option String :=
  let cs := argument.toList
  let before := cs.takeWhile (· != '=')
  match cs.drop before.length with
  | _ :: behind => (String.ofList before, some (String.ofList behind))
  | [] => (argument, none)

def readOption (s : Signature) (argument : String) (next : Option String) : Reading :=
  let (spelling, behind) := splitValue argument
  match s.longSpellings.contains spelling, s.find? spelling with
  | true, some (name, none) => takeValue spelling name behind next
  | true, some (name, some v) =>
      if behind.isSome then .error (.valueUnwanted spelling) else .ok ([⟨name, v⟩], false)
  | _, _ =>
      if isLong argument then
        .error (.noOption spelling (Text.closeTexts spelling s.longSpellings))
      else readLetters s next (argument.toList.drop 1)

def isOption (argument : String) : Bool :=
  match argument.toList with
  | '-' :: _ :: _ => true
  | _ => false

/-- Divides arguments into the options given and the others. Where options may not
stand `anywhere`, the first argument that is none ends them. -/
def read (s : Signature) (anywhere : Bool) :
    List String → Except UsageFault (List Given × List String)
  | [] => .ok ([], [])
  | argument :: rest =>
      if argument == "--" then .ok ([], rest)
      else if isOption argument then
        match rest with
        | [] => do return ((← s.readOption argument none).1, [])
        | next :: rest => do
            let (given, used) ← s.readOption argument (some next)
            let (more, others) ←
              if used then s.read anywhere rest else s.read anywhere (next :: rest)
            return (given ++ more, others)
      else if anywhere then do
        let (given, others) ← s.read anywhere rest
        return (given, argument :: others)
      else .ok ([], argument :: rest)

end Signature

/-! ## Values -/

/-- A whole number. Single underscores may stand between its digits. -/
def wholeNumber? (text : String) : Option Int :=
  let (negative, rest) := NumberText.sign (Text.trim text.toList)
  let groups := Text.splitOn '_' rest
  if groups.any (·.isEmpty) then none
  else
    match NumberText.digits? 10 groups.flatten with
    | some ds =>
        let n : Int := NumberText.valueOf 10 ds
        if Text.digitLimit < ds.length then none else some (if negative then -n else n)
    | none => none

/-- Whether something stands at a path; a file does not if a slash follows its
name. -/
def pathExists (t : Files.Tree) (text : String) : Bool :=
  let p := Files.Path.ofText text
  let last := ((Text.splitOn '/' text.toList).getLast?).getD []
  if text.isEmpty then false
  else if last == [] || last == ['.'] then t.isFolder p
  else t.exists? p

def ValueKind.check (t : Files.Tree) (k : ValueKind) (value : String) : Option ValueFault :=
  match k with
  | text => none
  | integer => if (wholeNumber? value).isNone then some (.notInteger value) else none
  | choice choices => if choices.contains value then none else some (.notChoice value choices)
  | existingPath => if pathExists t value then none else some (.noPath value)

structure Arguments where
  options : List Given
  others : List String
  deriving Repr

namespace Arguments

def option? (a : Arguments) (name : String) : Option String :=
  ((a.options.filter (·.name == name)).getLast?).map (·.value)

def request? (a : Arguments) : Option String :=
  (a.options.find? fun g => isRequest g.name).map (·.name)

def givenNames (a : Arguments) : List String := (a.options.map (·.name)).eraseDups

def optionFault? (a : Arguments) (t : Files.Tree) (s : Signature) (name : String) :
    Option UsageFault := do
  let r ← s.options.find? (·.name == name)
  let value ← a.option? name
  let f ← r.kind.check t value
  return .value (" / ".intercalate (r.spellings.map (·.1))) f

def othersFault? (a : Arguments) (t : Files.Tree) : ArgumentRule → Option UsageFault
  | .none => if a.others.isEmpty then none else some (.argumentsExtra a.others)
  | .many => none
  | .onePath name =>
      match a.others with
      | [] => some (.argumentMissing name)
      | path :: extra =>
          if !pathExists t path then some (.value name (.noPath path))
          else if extra.isEmpty then none
          else some (.argumentsExtra extra)

def fault? (a : Arguments) (t : Files.Tree) (s : Signature) : Option UsageFault :=
  (a.givenNames.findSome? (a.optionFault? t s)).or (a.othersFault? t s.arguments)

end Arguments

end SchemaJoins.Command
