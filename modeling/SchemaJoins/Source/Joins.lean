import SchemaJoins.Source.Literal
import SchemaJoins.Text.Blank
import SchemaJoins.Text.WordCharacter

/-! # The joins of a domain file

A domain file is never executed. Its joins are the literal mapping under the first
key `joins` of a map display, or passed under that name, the outermost first. In
a file that is not well formed they are looked for as text: the word, a colon or
an equals sign, and a mapping whose braces are balanced.
-/

namespace SchemaJoins.Source

def joinsName : String := "joins"

inductive JoinsFault where
  | notLiteral (f : Fault)
  | notMapping (kind : String)
  | notClosed
  | illFormed
  deriving Repr

def JoinsFault.message : JoinsFault → String
  | notLiteral f => "joins is not a literal: " ++ f.message
  | notMapping kind => "joins must be a mapping, got " ++ kind
  | notClosed => "joins mapping is not closed"
  | illFormed => "joins mapping could not be parsed"

inductive Extraction where
  | absent
  | failed (f : JoinsFault)
  | found (joins : List (Value × Value))
  deriving Repr

namespace Extraction

/-- There are joins, whether or not they can be used. -/
def isFound : Extraction → Bool
  | absent => false
  | _ => true

def joins : Extraction → List (Value × Value)
  | found joins => joins
  | _ => []

def error? : Extraction → Option String
  | failed f => some f.message
  | _ => none

end Extraction

namespace Node

def isJoinsKey : Node → Bool
  | constant _ (.text s) => s == joinsName
  | _ => false

def directJoins? (entries : List (Option Node × Node)) : Option Node :=
  (entries.find? fun e => e.1.any isJoinsKey).map (·.2)

mutual

/-- The first joins in a tree, before those within its parts. The keys of a map
display come before its values. -/
def joins? : Node → Option Node
  | constant .. => none
  | sign _ _ operand => joins? operand
  | list _ items => joinsAmong? items
  | tuple _ items => joinsAmong? items
  | map _ entries =>
      match directJoins? entries with
      | some value => some value
      | none =>
          match joinsInKeys? entries with
          | some value => some value
          | none => joinsInValues? entries
  | argument name value => if name == some joinsName then some value else joins? value
  | other _ _ parts => joinsAmong? parts

def joinsAmong? : List Node → Option Node
  | [] => none
  | n :: ns =>
      match joins? n with
      | some value => some value
      | none => joinsAmong? ns

def joinsInKeys? : List (Option Node × Node) → Option Node
  | [] => none
  | (none, _) :: rest => joinsInKeys? rest
  | (some key, _) :: rest =>
      match joins? key with
      | some value => some value
      | none => joinsInKeys? rest

def joinsInValues? : List (Option Node × Node) → Option Node
  | [] => none
  | (_, value) :: rest =>
      match joins? value with
      | some found => some found
      | none => joinsInValues? rest

end

end Node

/-- The mapping that a tree denotes. Only a part that is no literal is told as the
outcome. -/
def Extraction.ofNode (n : Node) : Except Fault Extraction :=
  match n.evaluate.mapError Fault.told with
  | .ok (.map joins) => .ok (.found joins)
  | .ok v => .ok (.failed (.notMapping v.shortKind))
  | .error (.literal f line) => .ok (.failed (.notLiteral (.literal f line)))
  | .error f => .error f

structure BraceScan where
  depth : Nat
  quote : Option Char
  escaped : Bool
  deriving DecidableEq, Repr

def BraceScan.next (s : BraceScan) (c : Char) : BraceScan :=
  match s.quote with
  | some q =>
      if s.escaped then { s with escaped := false }
      else if c = '\\' then { s with escaped := true }
      else if c = q then { s with quote := none }
      else s
  | none =>
      if c = '\'' ∨ c = '"' then { s with quote := some c }
      else if c = '{' then { s with depth := s.depth + 1 }
      else if c = '}' then { s with depth := s.depth - 1 }
      else s

def bracedFrom (s : BraceScan) : List Char → Option (List Char)
  | [] => none
  | c :: cs =>
      let s' := s.next c
      if s.quote.isNone ∧ c = '}' ∧ s'.depth = 0 then some [c]
      else (bracedFrom s' cs).map (c :: ·)

def braced? (cs : List Char) : Option (List Char) := bracedFrom ⟨0, none, false⟩ cs

def dropQuote : List Char → List Char
  | '\'' :: cs => cs
  | '"' :: cs => cs
  | cs => cs

/-- The text from the brace on, when a text starts with the word `joins`, a colon
or an equals sign, and a brace. -/
def joinsText? (cs : List Char) : Option (List Char) :=
  if joinsName.toList.isPrefixOf cs then
    let rest := cs.drop joinsName.length
    if rest.head?.any Text.isWordCharacter then none
    else
      match Text.trimLeft (dropQuote rest) with
      | ':' :: after | '=' :: after =>
          match Text.trimLeft after with
          | '{' :: body => some ('{' :: body)
          | _ => none
      | _ => none
  else none

/-- The text from the brace of the first joins on. The flag says whether the
character before is part of a word. -/
def findJoinsText (inWord : Bool) : List Char → Option (List Char)
  | [] => none
  | c :: cs =>
      match if inWord then none else joinsText? (c :: cs) with
      | some found => some found
      | none => findJoinsText (Text.isWordCharacter c) cs

def Extraction.ofFragment (cs : List Char) : Except Fault Extraction :=
  match findJoinsText false cs with
  | none => .ok .absent
  | some text =>
      match braced? text with
      | none => .ok (.failed .notClosed)
      | some fragment =>
          match parseExpression (String.ofList fragment) with
          | none => .ok (.failed .illFormed)
          | some tree => Extraction.ofNode tree

def Extraction.ofTree (tree : Node) : Except Fault Extraction :=
  match tree.joins? with
  | some n => Extraction.ofNode n
  | none => .ok .absent

def extractJoins (content : String) : Except Fault Extraction := do
  checkCharacters content
  match parseModule content with
  | some tree => Extraction.ofTree tree
  | none => Extraction.ofFragment content.toList

end SchemaJoins.Source
