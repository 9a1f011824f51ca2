import SchemaJoins.Console.Markup
import SchemaJoins.Console.Wrap
import SchemaJoins.Text.LineEnd

/-! # Tables

Rows of cells under a header, with a title over the whole table. Each column is
as wide as its widest cell; where that is too much for the console, the widest
columns are narrowed, down to the width of the next ones.
-/

namespace SchemaJoins.Console

open Text

def screenWidth : Nat := 160

structure Table where
  title : String
  columns : List String
  /-- Each row has a cell for each column. -/
  rows : List (List String)
  deriving Repr

namespace Table

def total (widths : List Nat) : Nat := widths.foldl (· + ·) 0

/-- Line ends of every kind divide a text; a last one does not start a line. -/
def textLines (cs : List Char) : List Line :=
  let isEnd (c : Char) : Bool := "\n\r\x0b\x0c\x1c\x1d\x1e\u0085\u2028\u2029".toList.contains c
  let lines := (unifyLineEnds cs).splitBy fun a _ => !isEnd a
  lines.map (·.filter (!isEnd ·))

def textWidth (cs : List Char) : Nat := ((textLines cs).map cellLength).foldl max 0

def columnWidth (limit : Nat) (cells : List (List Char)) : Nat :=
  min limit ((cells.map textWidth).foldl max 0 + 2)

/-- The quotient rounded to the nearest number; a tie goes to the even one. -/
def roundedShare (total shares : Nat) : Nat :=
  let q := total / shares
  let r := total % shares
  if 2 * r < shares ∨ 2 * r = shares ∧ q % 2 = 0 then q else q + 1

/-- Takes a total from the chosen widths in equal shares, at most `most` from
each. -/
def takeShares (chosen : Nat → Bool) (most : Nat → Nat) : (total shares : Nat) → List Nat → List Nat
  | _, _, [] => []
  | total, shares, w :: ws =>
      if chosen w && decide (0 < shares) then
        let taken := min (most w) (roundedShare total shares)
        (w - taken) :: takeShares chosen most (total - taken) (shares - 1) ws
      else w :: takeShares chosen most total shares ws

/-- Narrows the widest columns to the width of the next ones until the sum of the
widths is at most `limit`. -/
def narrow (limit : Nat) : Nat → List Nat → List Nat
  | 0, widths => widths
  | fuel + 1, widths =>
      if total widths ≤ limit then widths
      else
        let widest := widths.foldl max 0
        let second := (widths.filter (· != widest)).foldl max 0
        let excess := total widths - limit
        narrow limit fuel (takeShares (· == widest) (fun _ => min excess (widest - second)) excess
          (widths.count widest) widths)

def columnWidths (limit : Nat) (columns : List (List (List Char))) : List Nat :=
  let widths := columns.map (columnWidth limit)
  if total widths ≤ limit then widths
  else
    let widths := narrow limit (total widths) widths
    let excess := total widths - limit
    let widths := takeShares (0 < ·) id excess (widths.countP (0 < ·)) widths
    (widths.zip columns).map fun (w, cells) => columnWidth w cells

def cellLines (width : Nat) (cs : List Char) : List Line :=
  (wrap .left .ellipsis (width - 2) cs).map fun line => ' ' :: line ++ [' ']

def stretch (atBottom : Bool) (height width : Nat) (lines : List Line) : List Line :=
  let missing := List.replicate (height - lines.length) (blankLine width)
  if atBottom then missing ++ lines else lines ++ missing

def rowLines (bar : Char) (atBottom : Bool) (widths : List Nat) (cells : List (List Char)) :
    List Line :=
  let blocks := (widths.zip cells).map fun (w, cs) => (w, cellLines w cs)
  let height := (blocks.map (·.2.length)).foldl max 1
  let blocks := blocks.map fun (w, lines) => stretch atBottom height w lines
  (List.range height).map fun i =>
    bar :: [bar].intercalate (blocks.map fun lines => (lines[i]?).getD []) ++ [bar]

def ruleLine (left line crossing right : Char) (widths : List Nat) : Line :=
  left :: [crossing].intercalate (widths.map fun w => List.replicate w line) ++ [right]

def cellsByColumn (t : Table) : List (List String) :=
  (List.range t.columns.length).zipWith
    (fun i header => header :: t.rows.filterMap (·[i]?)) t.columns

def render (t : Table) : Except Fault (List Line) := do
  let columns ← t.cellsByColumn.mapM (·.mapM Console.render)
  let borders := columns.length + 1
  let widths := columnWidths (screenWidth - borders) columns
  let title ← Console.render t.title
  let cells (i : Nat) : List (List Char) := columns.filterMap (·[i]?)
  let rows := (List.range t.rows.length).flatMap fun i =>
    rowLines '│' false widths (cells (i + 1))
  return wrap .center .fold (total widths + borders) title ++
    ruleLine '┏' '━' '┳' '┓' widths :: rowLines '┃' true widths (cells 0) ++
    ruleLine '┡' '━' '╇' '┩' widths :: rows ++ [ruleLine '└' '─' '┴' '┘' widths]

end Table

def paragraph (s : String) : Except Fault (List Line) :=
  (render s).map (wrap .natural .fold screenWidth)

end SchemaJoins.Console
