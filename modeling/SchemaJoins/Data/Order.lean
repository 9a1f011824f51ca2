import SchemaJoins.Data.Fault

/-! # Sorting

Texts and bytes are sorted by their characters, numbers by their size, and dates and
moments by time; values of different families have no order.
-/

namespace SchemaJoins

def sortTexts (xs : List String) : List String :=
  xs.mergeSort fun a b => decide (a ≤ b)

def repeatedTexts (xs : List String) : List String :=
  sortTexts (xs.eraseDups.filter fun x => decide (1 < xs.count x))

namespace Value

/-- The values that are ordered among themselves. A moment whose offset is known has no
place among those whose offset is not. -/
inductive Family where
  | text
  | number
  | bytes
  | date
  | moment (hasOffset : Bool)
  deriving DecidableEq

def family? : Value → Option Family
  | text _ => some .text
  | bool _ | int _ | real _ => some .number
  | bytes _ => some .bytes
  | date _ => some .date
  | moment m => some (.moment m.offset.isSome)
  | _ => none

def isComparable (v w : Value) : Bool :=
  v.family?.isSome && decide (v.family? = w.family?)

def Numeric.real64 : Numeric → Binary64
  | whole n => .ofInt n
  | real x => x

def le : Value → Value → Bool
  | text s, text t => decide (s ≤ t)
  | bytes s, bytes t => decide (s ≤ t)
  | date d, date e => decide (d.dayNumber ≤ e.dayNumber)
  | moment m, moment n => decide (m.instant ≤ n.instant)
  | v, w =>
      match v.numeric?, w.numeric? with
      | some (.whole m), some (.whole n) => decide (m ≤ n)
      | some a, some b => !b.real64.lt a.real64
      | _, _ => true

/-- Values can be sorted when neighbours are comparable. -/
def requireOrdered : List Value → Except Fault Unit
  | v :: w :: rest =>
      if isComparable v w then requireOrdered (w :: rest)
      else .error (.incomparable w.kind v.kind)
  | _ => .ok ()

end Value

end SchemaJoins
