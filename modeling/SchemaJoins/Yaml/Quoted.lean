import SchemaJoins.Yaml.Cursor

/-! # Quoted scalars

Inside quotes a line end with the blanks around it is folded: it stands for a
space, and each further line end for itself. Single quotes know one escape, the
quote written twice; double quotes know escapes behind a backslash, also of line
ends.
-/

namespace SchemaJoins.Yaml

def escapes : List (Char × Char) := [
  ('0', '\x00'), ('a', '\x07'), ('b', '\x08'), ('t', '\t'), ('\t', '\t'), ('n', '\n'),
  ('v', '\x0b'), ('f', '\x0c'), ('r', '\r'), ('e', '\x1b'), (' ', ' '), ('"', '"'),
  ('\\', '\\'), ('/', '/'), ('N', '\u0085'), ('_', '\u00a0'), ('L', '\u2028'), ('P', '\u2029')]

def escapeDigits? : Char → Option Nat
  | 'x' => some 2
  | 'u' => some 4
  | 'U' => some 8
  | _ => none

def lowHalf? : List Char → Option (Nat × List Char)
  | '\\' :: 'u' :: rest =>
      (hexNumber? 4 rest).filter fun (n, _) => decide (0xDC00 ≤ n) && decide (n ≤ 0xDFFF)
  | _ => none

/-- The character of a number. Two escapes for the halves of a character stand
for it, and half a character for the replacement character. -/
def numbered (code : Nat) (rest : List Char) : Except Flaw (Char × List Char) :=
  if code > 0x10FFFF then .error (.fault (.noCharacter code))
  else if 0xD800 ≤ code ∧ code ≤ 0xDBFF then
    match lowHalf? rest with
    | some (low, rest) =>
        .ok (Char.ofNat (0x10000 + (code - 0xD800) * 0x400 + (low - 0xDC00)), rest)
    | none => .ok ('\ufffd', rest)
  else if 0xDC00 ≤ code ∧ code ≤ 0xDFFF then .ok ('\ufffd', rest)
  else .ok (Char.ofNat code, rest)

def escaped : List Char → Except Flaw (Char × List Char)
  | [] => .error .illFormed
  | x :: rest =>
      match escapes.lookup x with
      | some y => .ok (y, rest)
      | none =>
          match (escapeDigits? x).bind (hexNumber? · rest) with
          | some (code, rest) => numbered code rest
          | none => .error .illFormed

namespace Cursor

/-- The line ends from the start of a line on, with the blanks before each. -/
def foldedBreaks : Nat → Cursor → Except Flaw (List Char × Cursor)
  | 0, _ => .error .illFormed
  | fuel + 1, c =>
      if atDocumentMark c.rest then .error .illFormed
      else
        let c := c.skipWhile fun x => x == ' ' || x == '\t'
        match c.lineBreak? with
        | some (b, c) => do
            let (bs, c) ← foldedBreaks fuel c
            return (b :: bs, c)
        | none => .ok ([], c)

/-- Blanks inside quotes, folded if a line ends behind them. -/
def quotedGap (fuel : Nat) (c : Cursor) : Except Flaw (List Char × Cursor) := do
  let (blanks, c) := c.takeWhile fun x => x == ' ' || x == '\t'
  match c.lineBreak? with
  | none => return (blanks, c)
  | some (b, c) => do
      let (bs, c) ← c.foldedBreaks fuel
      if b != '\n' then return (b :: bs, c)
      else if bs.isEmpty then return ([' '], c)
      else return (bs, c)

def quoted (double : Bool) : Nat → Cursor → Except Flaw (List Char × Cursor)
  | 0, _ => .error .illFormed
  | fuel + 1, c => do
      let (text, c, closed) ← match c.rest with
        | [] => .error .illFormed
        | x :: rest =>
            if !double && x == '\'' then
              if startsWith (· == '\'') rest then pure (['\''], c.skip 2, false)
              else pure ([], c.advance, true)
            else if double && x == '"' then pure ([], c.advance, true)
            else if double && x == '\\' then
              match c.advance.lineBreak? with
              | some (_, c) => do
                  let (bs, c) ← c.foldedBreaks (fuel + 1)
                  pure (bs, c, false)
              | none => do
                  let (y, rest') ← escaped rest
                  pure ([y], c.skip (c.rest.length - rest'.length), false)
            else if isGap x then do
              let (gap, c) ← c.quotedGap (fuel + 1)
              pure (gap, c, false)
            else pure ([x], c.advance, false)
      if closed then return (text, c)
      else
        let (more, c) ← c.quoted double fuel
        return (text ++ more, c)

end Cursor

end SchemaJoins.Yaml
