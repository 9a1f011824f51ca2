import SchemaJoins.Number.Notation
import SchemaJoins.Text.Quoted
import SchemaJoins.Time.Calendar

/-! # Values

What an export, a settings file or a literal in source text can hold. A map
keeps its entries in order of arrival. Keys are the same when they are equal as
values, and `1`, `1.0` and `True` are equal.
-/

namespace SchemaJoins

inductive Value where
  | null
  | bool (b : Bool)
  | int (n : Int)
  | real (x : Binary64)
  | text (s : String)
  | list (items : List Value)
  | tuple (items : List Value)
  | map (entries : List (Value × Value))
  | set (items : List Value)
  | bytes (data : List UInt8)
  | date (d : CalendarDate)
  | moment (m : Moment)
  deriving Repr, Inhabited, BEq

namespace Value

def kind : Value → String
  | null => "NoneType"
  | bool _ => "bool"
  | int _ => "int"
  | real _ => "float"
  | text _ => "str"
  | list _ => "list"
  | tuple _ => "tuple"
  | map _ => "dict"
  | set _ => "set"
  | bytes _ => "bytes"
  | date _ => "datetime.date"
  | moment _ => "datetime.datetime"

def shortKind : Value → String
  | date _ => "date"
  | moment _ => "datetime"
  | v => v.kind

/-- Empty values and zeros count as absent. -/
def isTrue : Value → Bool
  | null => false
  | bool b => b
  | int n => n != 0
  | real x => !x.isZero
  | text s => !s.isEmpty
  | list xs => !xs.isEmpty
  | tuple xs => !xs.isEmpty
  | map es => !es.isEmpty
  | set xs => !xs.isEmpty
  | bytes bs => !bs.isEmpty
  | date _ => true
  | moment _ => true

/-- A value as a number: truth values count as `0` and `1`. -/
inductive Numeric where
  | whole (n : Int)
  | real (x : Binary64)

def Numeric.same : Numeric → Numeric → Bool
  | whole m, whole n => m == n
  | whole m, real x => x.isInt m
  | real x, whole n => x.isInt n
  | real x, real y => x.same y

def numeric? : Value → Option Numeric
  | bool b => some (.whole (if b then 1 else 0))
  | int n => some (.whole n)
  | real x => some (.real x)
  | _ => none

mutual

/-- Equality of values; the entries of maps are compared in any order. -/
def sameKey : Value → Value → Bool
  | null, null => true
  | text s, text t => s == t
  | list xs, list ys => sameKeys xs ys
  | tuple xs, tuple ys => sameKeys xs ys
  | map es, map fs => es.length == fs.length && sameEntries es fs
  | bytes s, bytes t => s == t
  | date d, date e => d == e
  | moment m, moment n => m == n
  | v, w =>
      match v.numeric?, w.numeric? with
      | some a, some b => a.same b
      | _, _ => false

def sameKeys : List Value → List Value → Bool
  | [], [] => true
  | x :: xs, y :: ys => sameKey x y && sameKeys xs ys
  | _, _ => false

def sameEntries : List (Value × Value) → List (Value × Value) → Bool
  | [], _ => true
  | (k, v) :: es, fs => fs.any (fun f => sameKey k f.1 && sameKey v f.2) && sameEntries es fs

end

mutual

/-- The kind of the first part that cannot be in a key: lists, maps and sets
cannot, and a tuple cannot hold one. -/
def unhashableKind? : Value → Option String
  | tuple xs => unhashableAmong? xs
  | list _ => some "list"
  | map _ => some "dict"
  | set _ => some "set"
  | _ => none

def unhashableAmong? : List Value → Option String
  | [] => none
  | x :: xs =>
      match unhashableKind? x with
      | some k => some k
      | none => unhashableAmong? xs

end

def isHashable (v : Value) : Bool := v.unhashableKind?.isNone

def find? (entries : List (Value × Value)) (key : Value) : Option Value :=
  (entries.find? fun e => sameKey e.1 key).map (·.2)

/-- Writes a value under a key: the first key and its place stay, and the last
value wins. -/
def put : List (Value × Value) → Value → Value → List (Value × Value)
  | [], key, v => [(key, v)]
  | (k, w) :: rest, key, v =>
      if sameKey k key then (k, v) :: rest else (k, w) :: put rest key v

def ofPairs (pairs : List (Value × Value)) : List (Value × Value) :=
  pairs.foldl (fun es (k, v) => put es k v) []

def record (fields : List (String × Value)) : Value :=
  .map (fields.map fun (k, v) => (.text k, v))

def texts (items : List String) : Value := .list (items.map .text)

end Value

end SchemaJoins
