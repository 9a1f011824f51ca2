import SchemaJoins.Command.Arguments
import SchemaJoins.Command.Session
import SchemaJoins.Settings.File

/-! # A new settings file -/

namespace SchemaJoins.Command.InitConfig

structure Request where
  path : Files.Path
  overwrite : Bool

def signature : Signature where
  arguments := .none
  options := [
    { name := "path", spellings := [("--path", none)] },
    { name := "force", spellings := [("--force", some "")] }]

def Request.ofArguments (a : Arguments) : Request where
  path := ((a.option? "path").map .ofText).getD Settings.usualPath
  overwrite := (a.option? "force").isSome

def run (r : Request) : Step Unit := do
  match Settings.writeTemplate (← Step.files) r.path r.overwrite with
  | .ok t =>
      Step.putFiles t
      Step.print ("[green]Wrote configuration template to: " ++ r.path.text ++ "[/green]")
  | .error f => Step.report f

end SchemaJoins.Command.InitConfig
