import SchemaJoins.Adapter.Version
import SchemaJoins.Join.Kind
import SchemaJoins.Text.Lowercase

/-! # What an adapter can do

A feature of an adapter is supported, not supported, or supported from a version
on. Adapters that are not known are taken to support everything.
-/

namespace SchemaJoins.Adapter

inductive Support where
  | fixed (supported : Bool)
  /-- Supported by the versions that meet the requirement. -/
  | when (requirement : String)
  deriving Repr

structure Capabilities where
  adapter : String
  version : Option String
  features : List (String × Bool)
  known : Bool
  deriving Repr, Inhabited

namespace Capabilities

def featureTable : String → Option (List (String × Support))
  | "postgres" => some [("right_join", .fixed true), ("full_outer_join", .fixed true),
      ("recursive_ctes", .fixed true)]
  | "mysql" => some [("right_join", .fixed true), ("full_outer_join", .fixed false),
      ("recursive_ctes", .when ">= 8.0")]
  | "sqlite" => some [("right_join", .when ">= 3.39"), ("full_outer_join", .when ">= 3.39"),
      ("recursive_ctes", .fixed true)]
  | _ => none

def resolve (version : Option String) : Support → Logged Bool
  | .fixed supported => return supported
  | .when requirement => versionSatisfies version requirement

def resolveAll (version : Option String) :
    List (String × Support) → Logged (List (String × Bool))
  | [] => return []
  | (feature, support) :: rest => do
      let supported ← resolve version support
      return (feature, supported) :: (← resolveAll version rest)

def get (adapter : String) (version : Option String) : Logged Capabilities :=
  let name := Text.lower adapter
  match featureTable name with
  | none => do
      Logged.warn ("Unknown adapter '" ++ adapter ++ "', assuming all join kinds are supported")
      return { adapter := name, version, features := [], known := false }
  | some table => do
      return { adapter := name, version, features := ← resolveAll version table, known := true }

def supportsFeature (c : Capabilities) (feature : String) : Bool :=
  ((c.features.find? (·.1 == feature)).map (·.2)).getD (!c.known)

def featureOf? : JoinKind → Option String
  | .right => some "right_join"
  | .full => some "full_outer_join"
  | .inner | .left | .cross => none

def supports (c : Capabilities) (kind : JoinKind) : Bool :=
  (featureOf? kind).all c.supportsFeature

/-- The kind itself if it is supported, and a left join otherwise. -/
def fallbackFor (c : Capabilities) (kind : JoinKind) : JoinKind :=
  if c.supports kind then kind else .left

end Capabilities

end SchemaJoins.Adapter
