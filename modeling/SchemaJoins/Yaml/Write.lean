import SchemaJoins.Data.Display
import SchemaJoins.Yaml.Style

/-! # Written documents

A value is written in blocks: entries of mappings and items of sequences stand on
lines of their own, indented by two blanks, and a sequence in a mapping is not
indented. Empty collections are written in brackets.
-/

namespace SchemaJoins.Yaml

def realNotation : RealNotation :=
  { RealNotation.standard with nan := ".nan", infinity := ".inf" }

/-- A real always has a point, so that it does not read as text. -/
def realChars (x : Binary64) : List Char :=
  let cs := (realNotation.write x).toList
  if cs.contains '.' then cs
  else cs.flatMap fun c => if c == 'e' then ".0e".toList else [c]

def plainChars : Value → List Char
  | .null => "null".toList
  | .bool b => (if b then "true" else "false").toList
  | .real x => realChars x
  | v => v.display.toList

def isBlock : Value → Bool
  | .map entries => !entries.isEmpty
  | .list items => !items.isEmpty
  | .tuple items => !items.isEmpty
  | .set items => !items.isEmpty
  | _ => false

def keyChars : Value → List Char
  | .map _ => "\x7b\x7d".toList
  | .list _ => "[]".toList
  | .tuple _ => "[]".toList
  | .set _ => "[]".toList
  | .text s => textChars s
  | v => plainChars v

/-- Keys that are too long, empty or on several lines are marked with a question
mark. -/
def isShortKey : Value → Bool
  | .text s => !s.isEmpty && !ScalarStyle.isMultiline s.toList && decide (s.length < 123)
  | v => !isBlock v

def indented (lines : List (List Char)) : List (List Char) :=
  lines.map fun line => if line.isEmpty then [] else ' ' :: ' ' :: line

def beside (mark : List Char) : List (List Char) → List (List Char)
  | [] => [mark]
  | line :: rest => (mark ++ line) :: indented rest

def underKey (key : List Char) (v : Value) (lines : List (List Char)) : List (List Char) :=
  match v, isBlock v with
  | .map _, true => (key ++ [':']) :: indented lines
  | _, true => (key ++ [':']) :: lines
  | _, false => beside (key ++ [':', ' ']) lines

def valueIndent (indent : Nat) (v : Value) : Nat :=
  match v, isBlock v with
  | .map _, _ => indent + 2
  | _, true => indent
  | _, false => indent + 2

mutual

/-- The lines of a value that starts in a column. Its other lines, which are
indented, are given without the indent. -/
def valueLines (indent column : Nat) : Value → List (List Char)
  | .map [] => ["\x7b\x7d".toList]
  | .map entries => entryLines indent entries
  | .list [] => ["[]".toList]
  | .list items => itemLines indent items
  | .tuple [] => ["[]".toList]
  | .tuple items => itemLines indent items
  | .set [] => ["[]".toList]
  | .set items => itemLines indent items
  | .text s => textLines indent column s
  | v => [plainChars v]

def itemLines (indent : Nat) : List Value → List (List Char)
  | [] => []
  | v :: rest =>
      beside ['-', ' '] (valueLines (indent + 2) (indent + 2) v) ++ itemLines indent rest

def entryLines (indent : Nat) : List (Value × Value) → List (List Char)
  | [] => []
  | e :: rest => pairLines indent e ++ entryLines indent rest

def pairLines (indent : Nat) : Value × Value → List (List Char)
  | (k, v) =>
      if isShortKey k then
        let key := keyChars k
        underKey key v (valueLines (valueIndent indent v) (indent + key.length + 2) v)
      else
        beside ['?', ' '] (valueLines (indent + 2) (indent + 2) k) ++
          beside [':', ' '] (valueLines (indent + 2) (indent + 2) v)

end

def write (entries : List (Value × Value)) : String :=
  String.ofList ((valueLines 0 0 (.map entries)).flatMap fun line => line ++ ['\n'])

end SchemaJoins.Yaml
