/-! # Similar texts

Two texts are compared by their longest common part, then by the longest common
parts before and behind it, and so on. The measure of likeness is the share of
characters in such parts.
-/

namespace SchemaJoins.Text

def commonStart : List Char → List Char → Nat
  | a :: as, b :: bs => if a = b then commonStart as bs + 1 else 0
  | _, _ => 0

structure CommonPart where
  left : Nat
  right : Nat
  size : Nat
  deriving DecidableEq, Repr

/-- The longest common part; of several the first on the left, then on the right. -/
def longestCommonPart (as bs : List Char) : CommonPart :=
  let parts := (List.range as.length).flatMap fun i =>
    (List.range bs.length).map fun j => ⟨i, j, commonStart (as.drop i) (bs.drop j)⟩
  parts.foldl (fun best p => if best.size < p.size then p else best) ⟨0, 0, 0⟩

def commonCharacters : Nat → List Char → List Char → Nat
  | 0, _, _ => 0
  | fuel + 1, as, bs =>
      let p := longestCommonPart as bs
      if p.size = 0 then 0
      else
        p.size + commonCharacters fuel (as.take p.left) (bs.take p.right) +
          commonCharacters fuel (as.drop (p.left + p.size)) (bs.drop (p.right + p.size))

structure Likeness where
  candidate : String
  common : Nat
  total : Nat
  deriving Repr

namespace Likeness

def of (text candidate : String) : Likeness :=
  { candidate, total := text.length + candidate.length
    common := commonCharacters (candidate.length + 1) candidate.toList text.toList }

/-- At least three fifths of the characters are in common parts. -/
def isClose (l : Likeness) : Bool := decide (3 * l.total ≤ 10 * l.common)

def le (l m : Likeness) : Bool :=
  let x := l.common * m.total
  let y := m.common * l.total
  decide (y < x) || (x == y && decide (m.candidate ≤ l.candidate))

end Likeness

/-- The three candidates most like a text, if they are close to it, sorted. -/
def closeTexts (text : String) (candidates : List String) : List String :=
  let close := (candidates.map (Likeness.of text)).filter (·.isClose)
  (((close.mergeSort Likeness.le).take 3).map (·.candidate)).mergeSort (decide <| · ≤ ·)

end SchemaJoins.Text
