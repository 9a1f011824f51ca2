import SchemaJoins.Text.Printable

/-! # Quoted text

A text in quotes names itself: the delimiter, the backslash and everything that
does not show on the page are escaped. Single quotes are the rule; double quotes
stand around a text that holds single ones only.
-/

namespace SchemaJoins.Text

def delimiter (cs : List Char) : Char :=
  if cs.contains '\'' && !cs.contains '"' then '"' else '\''

def hexDigits (n width : Nat) : List Char :=
  match width with
  | 0 => []
  | w + 1 => hexDigits (n / 16) w ++ [Nat.digitChar (n % 16)]

def escapeCode (n : Nat) : List Char :=
  if n < 0x100 then '\\' :: 'x' :: hexDigits n 2
  else if n < 0x10000 then '\\' :: 'u' :: hexDigits n 4
  else '\\' :: 'U' :: hexDigits n 8

def escapeChar (delim c : Char) : List Char :=
  if c = delim ∨ c = '\\' then ['\\', c]
  else if c = '\n' then ['\\', 'n']
  else if c = '\r' then ['\\', 'r']
  else if c = '\t' then ['\\', 't']
  else if isPrintable c then [c]
  else escapeCode c.toNat

def quote (cs : List Char) : List Char :=
  let d := delimiter cs
  d :: (cs.flatMap (escapeChar d) ++ [d])

/-- Bytes are written like text, everything above ASCII by its number. -/
def quoteBytes (bytes : List UInt8) : List Char :=
  let cs := bytes.map fun b => Char.ofNat b.toNat
  let d := delimiter cs
  let body := cs.flatMap fun c =>
    if c.toNat < 127 then escapeChar d c else escapeCode c.toNat
  'b' :: d :: (body ++ [d])

end SchemaJoins.Text
