import SchemaJoins.Yaml.Cursor

/-! # Plain scalars

A scalar without quotes ends at a comment, at a colon before a separator, in a
bracketed collection also at its punctuation, and at a line that is indented too
little. Its lines are folded.
-/

namespace SchemaJoins.Yaml

def endsPlain (inFlow : Bool) : List Char → Bool
  | [] => true
  | c :: rest =>
      isGap c ||
        (c == ':' && (atEndOr isGap rest || (inFlow && startsWith isFlowIndicator rest))) ||
        (inFlow && (isFlowIndicator c || c == '?'))

def plainLength (inFlow : Bool) : List Char → Nat
  | [] => 0
  | c :: rest => if endsPlain inFlow (c :: rest) then 0 else plainLength inFlow rest + 1

def startsPlain (inFlow : Bool) : List Char → Bool
  | [] => false
  | c :: rest =>
      !(isGap c || isIndicator c) ||
        (!atEndOr isGap rest && (c == '-' || (!inFlow && (c == '?' || c == ':'))))

/-- What stands between two rows of a plain scalar: the text it counts as, and
whether a line ended in it. -/
structure PlainGap where
  text : List Char
  brokeLine : Bool

namespace Cursor

/-- The line ends behind the first one, up to the next row; none when a mark
between documents comes first. -/
def plainBreaks : Nat → Cursor → Option (List Char) × Cursor
  | 0, c => (none, c)
  | fuel + 1, c =>
      if atDocumentMark c.rest then (none, c)
      else
        let c := c.skipWhile (· == ' ')
        match c.lineBreak? with
        | some (b, c) =>
            let (bs, c) := plainBreaks fuel c
            (bs.map (b :: ·), c)
        | none => (some [], c)

def plainGap (c : Cursor) : PlainGap × Cursor :=
  let (blanks, c) := c.takeWhile (· == ' ')
  match c.lineBreak? with
  | none => (⟨blanks, false⟩, c)
  | some (b, c) =>
      match c.plainBreaks (c.rest.length + 1) with
      | (none, c) => (⟨[], true⟩, c)
      | (some bs, c) =>
          if b != '\n' then (⟨b :: bs, true⟩, c)
          else if bs.isEmpty then (⟨[' '], true⟩, c)
          else (⟨bs, true⟩, c)

/-- The rows of a plain scalar behind a gap, in one text; the place behind them,
and whether a line ended before it. Rows are indented by `indent` at least. -/
def plain (inFlow : Bool) (indent : Nat) : Nat → PlainGap → Cursor → List Char × Bool × Cursor
  | 0, gap, c => ([], gap.brokeLine, c)
  | fuel + 1, gap, c =>
      let count := plainLength inFlow c.rest
      if startsWith (· == '#') c.rest || count = 0 then ([], gap.brokeLine, c)
      else
        let row := gap.text ++ c.rest.take count
        let (gap, c) := (c.skip count).plainGap
        if gap.text.isEmpty || startsWith (· == '#') c.rest ||
            (!inFlow && decide (c.column < indent)) then (row, gap.brokeLine, c)
        else
          let (more, brokeLine, c) := c.plain inFlow indent fuel gap
          (row ++ more, brokeLine, c)

end Cursor

end SchemaJoins.Yaml
