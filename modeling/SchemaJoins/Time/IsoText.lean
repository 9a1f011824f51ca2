import SchemaJoins.Time.Calendar

/-! # Texts of dates and times

The texts that name a date or a date with a time of day in the international
notation, with or without separators, by month and day or by week. They are read
byte by byte; a byte `0` stands for the end of the text.
-/

namespace SchemaJoins.IsoText

def byteAt (bs : List UInt8) (i : Nat) : UInt8 := bs.getD i 0

def isDigit (b : UInt8) : Bool := decide (48 ≤ b.toNat) && decide (b.toNat ≤ 57)

def hyphen : UInt8 := 45
def colon : UInt8 := 58
def weekMark : UInt8 := 87

def digits? (count : Nat) (bs : List UInt8) : Option (Nat × List UInt8) :=
  let taken := bs.take count
  if taken.length = count && taken.all isDigit then
    some (taken.foldl (fun n b => n * 10 + (b.toNat - 48)) 0, bs.drop count)
  else none

def expect? (b : UInt8) (bs : List UInt8) : Option (List UInt8) :=
  match bs with
  | c :: rest => if c == b then some rest else none
  | [] => none

/-- A week date behind its year and the week mark: valid weekdays of valid weeks.
A week alone stands for its Monday. `length` is that of the whole date. -/
def weekDate (year : Nat) (separated : Bool) (length : Nat) (bs : List UInt8) : Bool :=
  match digits? 2 bs with
  | none => false
  | some (week, rest) =>
      let read := 4 + (if separated then 1 else 0) + 1 + 2
      if length ≤ read then CalendarDate.weekDayValid year week 1
      else
        match (if separated then expect? hyphen rest else some rest) with
        | none => false
        | some rest =>
            match digits? 1 rest with
            | some (weekday, _) => CalendarDate.weekDayValid year week weekday
            | none => false

/-- The bytes begin with a valid date. `length` tells a week from a day of it. -/
def isDatePart (bs : List UInt8) (length : Nat) : Bool :=
  match digits? 4 bs with
  | none => false
  | some (year, rest) =>
      let separated := byteAt rest 0 == hyphen
      let rest := if separated then rest.drop 1 else rest
      match rest with
      | 87 :: rest => weekDate year separated length rest
      | _ =>
          match digits? 2 rest with
          | none => false
          | some (month, rest) =>
              match (if separated then expect? hyphen rest else some rest) with
              | none => false
              | some rest =>
                  match digits? 2 rest with
                  | some (day, _) => CalendarDate.isValid ⟨year, month, day⟩
                  | none => false

def isDate (bs : List UInt8) : Bool :=
  (bs.length == 7 || bs.length == 8 || bs.length == 10) && isDatePart bs bs.length

/-- What a clock reading gives: the numbers read, and whether bytes other than
the end were left. -/
structure Clock where
  hour : Nat := 0
  minute : Nat := 0
  second : Nat := 0
  microsecond : Nat := 0
  leftOver : Bool := false
  deriving Repr, Inhabited

namespace Clock

def setUnit (c : Clock) (place value : Nat) : Clock :=
  match place with
  | 0 => { c with hour := value }
  | 1 => { c with minute := value }
  | _ => { c with second := value }

/-- The digits of a fraction; of more than six the rest is passed over. `next` is
the byte behind the text. -/
def fraction? (c : Clock) (bs : List UInt8) (next : UInt8) : Option Clock :=
  let count := min bs.length 6
  match digits? count bs with
  | none => none
  | some (n, rest) =>
      let rest := rest.dropWhile isDigit
      some { c with microsecond := n * Nat.pow 10 (6 - count), leftOver := rest.headD next != 0 }

/-- Reads `places` more of hours, minutes and seconds. Whether colons divide them
is settled by the first division. One byte more than a place is left over. -/
def read? (c : Clock) (place : Nat) (separated : Bool) (bs : List UInt8) (next : UInt8) :
    (places : Nat) → Option Clock
  | 0 => c.fraction? bs next
  | places + 1 =>
      match digits? 2 bs with
      | none => none
      | some (value, rest) =>
          let c := c.setUnit place value
          let here := rest.headD next
          let separated := if place = 0 then here == colon else separated
          if rest.length ≤ 1 then some { c with leftOver := here != 0 }
          else if separated && here == colon then
            c.read? (place + 1) separated (rest.drop 1) next places
          else if here == 46 || here == 44 then c.fraction? (rest.drop 1) next
          else if separated then none
          else c.read? (place + 1) separated rest next places

def isValid (c : Clock) : Bool :=
  decide (c.hour < 24) && decide (c.minute < 60) && decide (c.second < 60)

end Clock

def clock? (bs : List UInt8) (next : UInt8) : Option Clock :=
  Clock.read? {} 0 true bs next 3

def isZoneMark (b : UInt8) : Bool := b == 43 || b == hyphen || b == 90

def isOffset (bs : List UInt8) : Bool :=
  match clock? bs 0 with
  | none => false
  | some c =>
      !c.leftOver && decide (c.hour * 3600 + c.minute * 60 + c.second < 86400)

def isTime (bs : List UInt8) : Bool :=
  let clockPart := bs.takeWhile fun b => !isZoneMark b
  match bs.drop clockPart.length with
  | [] =>
      match clock? clockPart 0 with
      | some c => !c.leftOver && c.isValid
      | none => false
  | mark :: zone =>
      match clock? clockPart mark with
      | some c => c.isValid && (if mark == 90 then byteAt zone 0 == 0 else isOffset zone)
      | none => false

/-- Where the byte between date and time stands. A week date without separators
has an odd number of digits before the separator; behind a separated week a
hyphen followed by a digit and another one begins the time. -/
def separatorAt (bs : List UInt8) : Option Nat :=
  let n := bs.length
  if n = 7 then some 7
  else if byteAt bs 4 == hyphen then
    if byteAt bs 5 == weekMark then
      if n < 8 then none
      else if n > 8 && byteAt bs 8 == hyphen then
        if n = 9 then none
        else if n > 10 && isDigit (byteAt bs 10) then some 8
        else some 10
      else some 8
    else some 10
  else if byteAt bs 4 == weekMark then
    let stop := 7 + ((bs.drop 7).takeWhile isDigit).length
    if stop < 9 then some stop
    else if stop % 2 = 0 then some 7
    else some 8
  else some 8

def characterLength (b : UInt8) : Nat :=
  if b.toNat < 128 then 1
  else if b.toNat / 16 = 14 then 3
  else if b.toNat / 16 = 15 then 4
  else 2

def isDateTime (bs : List UInt8) : Bool :=
  match separatorAt bs with
  | none => false
  | some place =>
      isDatePart bs place &&
        (bs.length ≤ place || isTime (bs.drop (place + characterLength (byteAt bs place))))

end SchemaJoins.IsoText
