import SchemaJoins.Yaml.Character

/-! # Places in a document -/

namespace SchemaJoins.Yaml

structure Cursor where
  rest : List Char
  line : Nat := 0
  column : Nat := 0
  index : Nat := 0

namespace Cursor

/-- Passes one character. A byte order mark takes no column. -/
def advance (c : Cursor) : Cursor :=
  match c.rest with
  | [] => c
  | x :: rest =>
      if isBreak x then ⟨rest, c.line + 1, 0, c.index + 1⟩
      else ⟨rest, c.line, if x == '\uFEFF' then c.column else c.column + 1, c.index + 1⟩

def skip : Nat → Cursor → Cursor
  | 0, c => c
  | n + 1, c => skip n c.advance

def takeWhile (p : Char → Bool) (c : Cursor) : List Char × Cursor :=
  let run := c.rest.takeWhile p
  (run, c.skip run.length)

def skipWhile (p : Char → Bool) (c : Cursor) : Cursor := (c.takeWhile p).2

def skipComment (c : Cursor) : Cursor :=
  if startsWith (· == '#') c.rest then c.skipWhile (!isBreak ·) else c

/-- The line end that starts here, as it counts in a text, and the place behind
it. -/
def lineBreak? (c : Cursor) : Option (Char × Cursor) :=
  match c.rest with
  | x :: _ =>
      if x == '\n' || x == '\u0085' then some ('\n', c.advance)
      else if isBreak x then some (x, c.advance)
      else none
  | [] => none

def skipBreak (c : Cursor) : Cursor :=
  match c.lineBreak? with
  | some (_, c) => c
  | none => c

/-- Only blanks and a comment may follow on the line; passes them and the line
end. -/
def endLine? (c : Cursor) : Option Cursor :=
  let c := (c.skipWhile (· == ' ')).skipComment
  if atEndOr isBreak c.rest then some c.skipBreak else none

end Cursor

end SchemaJoins.Yaml
