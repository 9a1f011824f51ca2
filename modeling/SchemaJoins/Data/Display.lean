import SchemaJoins.Data.Value
import SchemaJoins.Text.DecimalDigit

/-! # Values as text

`Value.literal` writes a value the way it is written as a literal;
`Value.display` is the same except that a text stands for itself. Both write all
digits of an integer; `Value.isWritable` says whether there are too many.
-/

namespace SchemaJoins

def paddedNumber (width n : Nat) : String := RealNotation.padLeft width (toString n)

namespace CalendarDate

def iso (d : CalendarDate) : String :=
  paddedNumber 4 d.year ++ "-" ++ paddedNumber 2 d.month ++ "-" ++ paddedNumber 2 d.day

end CalendarDate

namespace Moment

def offsetText (offset : Int) : String :=
  let n := offset.natAbs
  let seconds := if n % 60 = 0 then "" else ":" ++ paddedNumber 2 (n % 60)
  (if offset < 0 then "-" else "+") ++ paddedNumber 2 (n / 3600) ++ ":" ++
    paddedNumber 2 (n / 60 % 60) ++ seconds

def iso (m : Moment) : String :=
  let fraction := if m.microsecond = 0 then "" else "." ++ paddedNumber 6 m.microsecond
  m.date.iso ++ " " ++ paddedNumber 2 m.hour ++ ":" ++ paddedNumber 2 m.minute ++ ":" ++
    paddedNumber 2 m.second ++ fraction ++ (m.offset.map offsetText).getD ""

def offsetLiteral (offset : Int) : String :=
  if offset = 0 then "datetime.timezone.utc"
  else
    let days := offset.fdiv 86400
    let seconds := offset.fmod 86400
    let parts := (if days = 0 then [] else ["days=" ++ toString days]) ++
      (if seconds = 0 then [] else ["seconds=" ++ toString seconds])
    "datetime.timezone(datetime.timedelta(" ++ ", ".intercalate parts ++ "))"

def literal (m : Moment) : String :=
  let clock := [m.date.year, m.date.month, m.date.day, m.hour, m.minute] ++
    (if m.second = 0 ∧ m.microsecond = 0 then [] else [m.second]) ++
    (if m.microsecond = 0 then [] else [m.microsecond])
  let zone := m.offset.map fun o => "tzinfo=" ++ offsetLiteral o
  "datetime.datetime(" ++ ", ".intercalate (clock.map toString ++ zone.toList) ++ ")"

end Moment

namespace Value

mutual

def literalChars : Value → List Char
  | null => "None".toList
  | bool b => (if b then "True" else "False").toList
  | int n => (toString n).toList
  | real x => x.text.toList
  | text s => Text.quote s.toList
  | list xs => '[' :: (itemChars xs ++ [']'])
  | tuple [x] => '(' :: (literalChars x ++ [',', ')'])
  | tuple xs => '(' :: (itemChars xs ++ [')'])
  | map es => '{' :: (entryChars es ++ ['}'])
  | set [] => "set()".toList
  | set xs => '{' :: (itemChars xs ++ ['}'])
  | bytes bs => Text.quoteBytes bs
  | date d => s!"datetime.date({d.year}, {d.month}, {d.day})".toList
  | moment m => m.literal.toList

def itemChars : List Value → List Char
  | [] => []
  | [x] => literalChars x
  | x :: xs => literalChars x ++ ',' :: ' ' :: itemChars xs

def entryChars : List (Value × Value) → List Char
  | [] => []
  | [(k, v)] => literalChars k ++ ':' :: ' ' :: literalChars v
  | (k, v) :: es => literalChars k ++ ':' :: ' ' :: (literalChars v ++ ',' :: ' ' :: entryChars es)

end

def literal (v : Value) : String := String.ofList v.literalChars

def display : Value → String
  | text s => s
  | date d => d.iso
  | moment m => m.iso
  | v => v.literal

mutual

/-- No integer in the value has more digits than are written. -/
def isWritable : Value → Bool
  | int n => decide ((Nat.toDigits 10 n.natAbs).length ≤ Text.digitLimit)
  | list xs => areWritable xs
  | tuple xs => areWritable xs
  | set xs => areWritable xs
  | map es => areEntriesWritable es
  | _ => true

def areWritable : List Value → Bool
  | [] => true
  | x :: xs => isWritable x && areWritable xs

def areEntriesWritable : List (Value × Value) → Bool
  | [] => true
  | (k, v) :: es => isWritable k && isWritable v && areEntriesWritable es

end

end Value

def quoted (s : String) : String := String.ofList (Text.quote s.toList)

end SchemaJoins
