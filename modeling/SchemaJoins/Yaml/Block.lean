import SchemaJoins.Yaml.Cursor

/-! # Block scalars

The lines below a `|` are taken as they are, and those below a `>` are folded.
The header tells which line ends stay at the end, and may give the indentation,
which is otherwise that of the first line that is not empty.
-/

namespace SchemaJoins.Yaml

/-- What becomes of the line ends at the end of a block scalar: the last one
stays, none stays, or all stay. -/
inductive Chomping where
  | clip
  | strip
  | keep
  deriving DecidableEq, Repr

def chomping? : Char → Option Chomping
  | '+' => some .keep
  | '-' => some .strip
  | _ => none

structure BlockHeader where
  chomping : Chomping := .clip
  /-- The indentation relative to the block around the scalar. -/
  indent : Option Nat := none

def blockHeader? (cs : List Char) : Option (BlockHeader × List Char) :=
  let digit? (cs : List Char) : Option (Option Nat × List Char) :=
    match cs with
    | c :: rest =>
        if c.isDigit then
          if c == '0' then none else some (some (c.toNat - '0'.toNat), rest)
        else some (none, cs)
    | [] => some (none, [])
  let mark (cs : List Char) : Option Chomping × List Char :=
    match cs with
    | c :: rest =>
        match chomping? c with
        | some m => (some m, rest)
        | none => (none, cs)
    | [] => (none, [])
  match mark cs with
  | (some m, rest) => do
      let (indent, rest) ← digit? rest
      return (⟨m, indent⟩, rest)
  | (none, rest) => do
      let (indent, rest) ← digit? rest
      match indent with
      | none => return (⟨.clip, none⟩, rest)
      | some n =>
          let (m, rest) := mark rest
          return (⟨m.getD .clip, some n⟩, rest)

namespace Cursor

def skipIndent (indent : Nat) (c : Cursor) : Cursor :=
  c.skip (min (c.rest.takeWhile (· == ' ')).length (indent - c.column))

def emptyLines (indent : Nat) : Nat → Cursor → List Char × Cursor
  | 0, c => ([], c)
  | fuel + 1, c =>
      match c.lineBreak? with
      | some (b, c) =>
          let (bs, c) := emptyLines indent fuel (c.skipIndent indent)
          (b :: bs, c)
      | none => ([], c)

/-- The line ends of the lines of blanks from here on, and the widest column
that their blanks reach. -/
def blankLines : Nat → Cursor → List Char × Nat × Cursor
  | 0, c => ([], 0, c)
  | fuel + 1, c =>
      let c := c.skipWhile (· == ' ')
      match c.lineBreak? with
      | some (b, next) =>
          let (bs, widest, next) := blankLines fuel next
          (b :: bs, max c.column widest, next)
      | none => ([], c.column, c)

def blockLines (folded : Bool) (chomping : Chomping) (indent : Nat) :
    Nat → List Char → List Char → Cursor → List Char × Cursor
  | 0, _, _, c => ([], c)
  | fuel + 1, lineEnd, empty, c =>
      if c.column = indent ∧ !c.rest.isEmpty then
        let indented := startsWith (fun x => x == ' ' || x == '\t') c.rest
        let (line, c) := c.takeWhile (!isBreak ·)
        let (lineEnd, c) := match c.lineBreak? with
          | some (b, c) => ([b], c)
          | none => ([], c)
        let (after, c) := (c.skipIndent indent).emptyLines indent (c.rest.length + 1)
        let next :=
          if c.column = indent ∧ !c.rest.isEmpty then
            if folded && lineEnd == ['\n'] && !indented &&
                !startsWith (fun x => x == ' ' || x == '\t') c.rest then
              if after.isEmpty then [' '] else []
            else lineEnd
          else []
        let (more, c) := c.blockLines folded chomping indent fuel lineEnd after
        (empty ++ line ++ next ++ more, c)
      else
        match chomping with
        | .strip => ([], c)
        | .clip => (lineEnd, c)
        | .keep => (lineEnd ++ empty, c)

/-- A block scalar behind its first mark; `outer` is the smallest indentation
that its lines can have. -/
def blockScalar (folded : Bool) (outer : Nat) (c : Cursor) : Except Flaw (List Char × Cursor) := do
  let some (header, rest) := blockHeader? c.rest | .error .illFormed
  let c := c.skip (c.rest.length - rest.length)
  if !atEndOr isSpaceOrBreak c.rest then .error .illFormed
  let some c := c.endLine? | .error .illFormed
  let outer := max outer 1
  let fuel := c.rest.length + 1
  match header.indent with
  | none =>
      let (empty, widest, c) := c.blankLines fuel
      return c.blockLines folded header.chomping (max outer widest) fuel [] empty
  | some n =>
      let indent := outer + n - 1
      let (empty, c) := (c.skipIndent indent).emptyLines indent fuel
      return c.blockLines folded header.chomping indent fuel [] empty

end Cursor

end SchemaJoins.Yaml
