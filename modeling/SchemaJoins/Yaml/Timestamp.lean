import SchemaJoins.Data.Value
import SchemaJoins.Data.Fault

/-! # Dates and times in documents

A date is written with hyphens; a time of day may follow behind a `T` or blanks,
and a zone behind that.
-/

namespace SchemaJoins.Yaml

inductive Zone where
  | universal
  | offset (behind : Bool) (hours minutes : Nat)

structure DayTime where
  hour : Nat
  minute : Nat
  second : Nat
  fraction : List Nat
  zone : Option Zone

structure Timestamp where
  year : Nat
  month : Nat
  day : Nat
  time : Option DayTime
  /-- Month and day have two digits each. -/
  full : Bool

namespace Timestamp

def digit? (c : Char) : Option Nat :=
  if c.isDigit then some (c.toNat - '0'.toNat) else none

def shortNumber? : List Char → Option (Nat × Nat × List Char)
  | a :: rest => do
      let m ← digit? a
      match rest with
      | b :: rest' =>
          match digit? b with
          | some n => return (m * 10 + n, 2, rest')
          | none => return (m, 1, rest)
      | [] => return (m, 1, [])
  | [] => none

def pair? (cs : List Char) : Option (Nat × List Char) :=
  (shortNumber? cs).bind fun (n, count, rest) => if count = 2 then some (n, rest) else none

def expect? (c : Char) : List Char → Option (List Char)
  | x :: rest => if x == c then some rest else none
  | [] => none

def dropBlanks (cs : List Char) : List Char := cs.dropWhile fun c => c == ' ' || c == '\t'

def zone? (cs : List Char) : Option (Option Zone) :=
  match dropBlanks cs with
  | [] => if cs.isEmpty then some none else none
  | ['Z'] => some (some .universal)
  | s :: rest =>
      if s == '+' || s == '-' then do
        let (hours, _, rest) ← shortNumber? rest
        match rest with
        | [] => return some (.offset (s == '-') hours 0)
        | ':' :: rest =>
            let (minutes, rest) ← pair? rest
            if rest.isEmpty then return some (.offset (s == '-') hours minutes) else none
        | _ => none
      else none

def dropSeparator? (cs : List Char) : Option (List Char) :=
  match cs with
  | 'T' :: rest => some rest
  | 't' :: rest => some rest
  | c :: _ => if c == ' ' || c == '\t' then some (dropBlanks cs) else none
  | [] => none

def time? (cs : List Char) : Option DayTime := do
  let (hour, _, rest) ← shortNumber? (← dropSeparator? cs)
  let (minute, rest) ← pair? (← expect? ':' rest)
  let (second, rest) ← pair? (← expect? ':' rest)
  let (fraction, rest) := match rest with
    | '.' :: rest => ((rest.takeWhile Char.isDigit).filterMap digit?, rest.dropWhile Char.isDigit)
    | rest => ([], rest)
  return ⟨hour, minute, second, fraction, ← zone? rest⟩

def parse? (cs : List Char) : Option Timestamp := do
  let (century, rest) ← pair? cs
  let (year, rest) ← pair? rest
  let (month, m, rest) ← shortNumber? (← expect? '-' rest)
  let (day, d, rest) ← shortNumber? (← expect? '-' rest)
  let time ← if rest.isEmpty then some none else (time? rest).map some
  return ⟨century * 100 + year, month, day, time, m == 2 && d == 2⟩

/-- A date alone is recognised only with two digits for month and day. -/
def isRecognised (cs : List Char) : Bool :=
  match parse? cs with
  | some t => t.full || t.time.isSome
  | none => false

def Zone.seconds (z : Zone) : Except Fault Int :=
  match z with
  | .universal => .ok 0
  | .offset behind hours minutes =>
      let size : Int := hours * 3600 + minutes * 60
      let n := if behind then -size else size
      if size < 86400 then .ok n
      else
        let days := n.fdiv 86400
        let rest := n.fmod 86400
        let shown := "days=" ++ toString days ++
          (if rest = 0 then "" else ", seconds=" ++ toString rest)
        .error (.notDate ("offset must be a timedelta strictly between " ++
          "-timedelta(hours=24) and timedelta(hours=24), not datetime.timedelta(" ++
          shown ++ ")."))

def date (t : Timestamp) : Except Fault CalendarDate :=
  let d : CalendarDate := ⟨t.year, t.month, t.day⟩
  if !CalendarDate.yearValid d.year then
    .error (.notDate ("year " ++ toString d.year ++ " is out of range"))
  else if !CalendarDate.monthValid d.month then .error (.notDate "month must be in 1..12")
  else if !d.dayValid then .error (.notDate "day is out of range for month")
  else .ok d

def microseconds (digits : List Nat) : Nat :=
  let taken := digits.take 6
  taken.foldl (fun n d => n * 10 + d) 0 * Nat.pow 10 (6 - taken.length)

def value (t : Timestamp) : Except Fault Value := do
  match t.time with
  | none => return .date (← t.date)
  | some time =>
      let offset ← time.zone.mapM Zone.seconds
      let date ← t.date
      if time.hour ≥ 24 then .error (.notDate "hour must be in 0..23")
      else if time.minute ≥ 60 then .error (.notDate "minute must be in 0..59")
      else if time.second ≥ 60 then .error (.notDate "second must be in 0..59")
      else
        return .moment ⟨date, time.hour, time.minute, time.second,
          microseconds time.fraction, offset⟩

end Timestamp

end SchemaJoins.Yaml
