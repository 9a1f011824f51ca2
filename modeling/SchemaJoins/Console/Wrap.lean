import SchemaJoins.Text.Blank
import SchemaJoins.Text.CellWidth
import SchemaJoins.Text.Split

/-! # Wrapped lines

A text is broken into lines that fit a width. Lines end between words, and a word
that is wider than a line is either divided or cut off.
-/

namespace SchemaJoins.Console

open Text

abbrev Line := List Char

def blankLine (width : Nat) : Line := List.replicate width ' '

def expandTabs (column : Nat) : Line → Line
  | [] => []
  | '\t' :: cs =>
      let next := (column / 8 + 1) * 8
      blankLine (next - column) ++ expandTabs next cs
  | c :: cs => c :: expandTabs (column + cellWidth c) cs

/-- The words of a line, each with the blanks behind it; the first one also has
those before it. -/
def wordsOf (cs : Line) : List Line :=
  match cs.dropWhile isBlank with
  | [] => []
  | rest =>
      match rest.splitBy fun a b => !isBlank a || isBlank b with
      | [] => []
      | w :: ws => (cs.takeWhile isBlank ++ w) :: ws

/-- Divides clusters into parts of a width; `part` is the part in progress. -/
def divideClusters (width : Nat) (part : Line) (used : Nat) : List Cluster → List Line
  | [] => [part]
  | k :: ks =>
      if width < used + k.cells then part :: divideClusters width k.chars k.cells ks
      else divideClusters width (part ++ k.chars) (used + k.cells) ks

def divideWord (width : Nat) (w : Line) : List Line := divideClusters width [] 0 (clusters w)

inductive Overflow where
  | fold
  | ellipsis
  deriving DecidableEq, Repr

/-- Puts words on lines; `line` is the line in progress, which takes `used`
cells. -/
def fillLines (overflow : Overflow) (width : Nat) (line : Line) (used : Nat) :
    List Line → List Line
  | [] => [line]
  | w :: ws =>
      let needed := cellLength (trimRight w)
      let before := if line.isEmpty then [] else [line]
      if used + needed ≤ width then
        fillLines overflow width (line ++ w) (used + cellLength w) ws
      else if width < needed then
        match overflow with
        | .fold =>
            let parts := divideWord width w
            let last := (parts.getLast?).getD []
            before ++ parts.dropLast ++ fillLines overflow width last (cellLength last) ws
        | .ellipsis => before ++ fillLines overflow width w (cellLength w) ws
      else if used = 0 then fillLines overflow width (line ++ w) used ws
      else before ++ fillLines overflow width w (cellLength w) ws

/-- Drops blanks at the end of a line as far as it is too long. -/
def dropExcess (width : Nat) (cs : Line) : Line :=
  cs.take (max width (trimRight cs).length)

/-- The part of a line that fits a width, filled up with a blank where a wide
character does not fit. -/
def cutClusters (width : Nat) : List Cluster → Line
  | [] => []
  | k :: ks =>
      if k.cells ≤ width then k.chars ++ cutClusters (width - k.cells) ks else blankLine width

def cutLine (overflow : Overflow) (width : Nat) (cs : Line) : Line :=
  if cellLength cs ≤ width then cs
  else
    match overflow with
    | .fold => cutClusters width (clusters cs)
    | .ellipsis => cutClusters (width - 1) (clusters cs) ++ ['…']

def padRight (width : Nat) (cs : Line) : Line := cs ++ blankLine (width - cellLength cs)

inductive Justify where
  | natural
  | left
  | center
  deriving DecidableEq, Repr

/-- Puts a line in its place; what is left over in the middle goes to the right. -/
def justified (justify : Justify) (overflow : Overflow) (width : Nat) (cs : Line) : Line :=
  match justify with
  | .natural => cutLine overflow width cs
  | .left => padRight width (cutLine overflow width cs)
  | .center =>
      let cs := cutLine overflow width (trimRight cs)
      padRight width (blankLine ((width - cellLength cs) / 2) ++ cs)

def wrapLine (justify : Justify) (overflow : Overflow) (width : Nat) (cs : Line) : List Line :=
  let cs := expandTabs 0 cs
  let lines := match wordsOf cs with
    | [] => [cs]
    | ws => fillLines overflow width [] 0 ws
  lines.map fun line => justified justify overflow width (dropExcess width line)

def wrap (justify : Justify) (overflow : Overflow) (width : Nat) (cs : List Char) : List Line :=
  (splitOn '\n' cs).flatMap (wrapLine justify overflow width)

end SchemaJoins.Console
