import SchemaJoins.Yaml.Cursor

/-! # Tokens of documents -/

namespace SchemaJoins.Yaml

inductive Token where
  /-- The version of the format that the document follows. -/
  | version (major minor : Nat)
  /-- A short form for the beginning of tags. -/
  | tagHandle (handle address : String)
  | otherDirective
  | documentStart
  | documentEnd
  | blockSequence
  | blockMapping
  | blockEnd
  | openSequence
  | closeSequence
  | openMapping
  | closeMapping
  /-- A hyphen before an entry. -/
  | entry
  | comma
  | key
  | value
  | alias (name : String)
  | anchor (name : String)
  | tag (handle : Option String) (address : String)
  | scalar (text : String) (plain : Bool)
  | streamEnd
  /-- The text cannot be divided further. -/
  | flaw (f : Flaw)
  deriving Repr

end SchemaJoins.Yaml
