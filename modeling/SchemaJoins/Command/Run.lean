import SchemaJoins.Command.Analyze
import SchemaJoins.Command.Help
import SchemaJoins.Command.InitConfig
import SchemaJoins.Command.Validate

/-! # The command line

The first argument that is no option names a command, and the arguments behind it
are for the command.
-/

namespace SchemaJoins.Command

def version : String := "joinscope, version 0.1.0"

structure Entry where
  name : String
  help : List String
  signature : Signature
  run : Arguments → Except UsageFault (Step Unit)

def entries : List Entry := [
  { name := "analyze", help := Help.analyze, signature := Analyze.signature
    run := fun a => .ok (Analyze.run (.ofArguments a)) },
  { name := "validate", help := Help.validate, signature := Validate.signature
    run := fun a =>
      let r := Validate.Request.ofArguments a
      if r.isEmpty then .error .nothingToValidate else .ok (Validate.run r) },
  { name := "init-config", help := Help.initConfig, signature := InitConfig.signature
    run := fun a => .ok (InitConfig.run (.ofArguments a)) }]

def programSignature : Signature where
  arguments := .many
  options := [
    { name := "version", spellings := [("--version", some "")] },
    { name := "verbose", spellings := [("-v", some ""), ("--verbose", some "")] }]

/-- Tells how a command is used wrongly. The first line of the help shows how it is
used. -/
def refuse (name : String) (help : List String) (f : UsageFault) : Step Unit := do
  Step.write (help.take 1 ++ ["Try '" ++ name ++ " --help' for help.", "", "Error: " ++ f.message])
  Step.exit 2

def answer (help : List String) (request : String) : Step Unit :=
  Step.write (if request == "version" then [version] else help)

def Entry.start (e : Entry) (arguments : List String) : Step Unit := do
  let refused := refuse ("joinscope " ++ e.name) e.help
  match e.signature.read true arguments with
  | .error f => refused f
  | .ok (options, others) =>
      let a : Arguments := { options, others }
      match a.request?, a.fault? (← Step.files) e.signature with
      | some request, _ => answer e.help request
      | none, some f => refused f
      | none, none =>
          match e.run a with
          | .ok steps => steps
          | .error f => refused f

def refuseProgram : UsageFault → Step Unit := refuse "joinscope" Help.program

/-- Refuses a name that is no command. One that looks like an option is read as
one. -/
def unknownCommand (name : String) (arguments : List String) : Step Unit :=
  match programSignature.read false (name :: arguments) with
  | .error f => refuseProgram f
  | .ok (options, others) =>
      match ({ options, others } : Arguments).request? with
      | some request => answer Help.program request
      | none => refuseProgram (.noCommand name)

/-- Runs the command that the arguments name. Without arguments the help is shown,
as for a wrong use. -/
def start (arguments : List String) : Step Unit :=
  if arguments.isEmpty then do
    Step.write Help.program
    Step.exit 2
  else
    match programSignature.read false arguments with
    | .error f => refuseProgram f
    | .ok (options, others) =>
        match ({ options, others } : Arguments).request?, others with
        | some request, _ => answer Help.program request
        | none, [] => refuseProgram .commandMissing
        | none, name :: rest =>
            match entries.find? (·.name == name) with
            | some e => e.start rest
            | none => unknownCommand name rest

def outcome (arguments : List String) (files : Files.Tree) : Outcome :=
  (start arguments).run files

end SchemaJoins.Command
