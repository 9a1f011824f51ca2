import SchemaJoins.Yaml.Timestamp

/-! # Kinds of nodes

A tag says what kind of value a node stands for. A plain scalar without a tag has
the kind that its text looks like: `12:30` and `010` look like integers, `1.5` and
`.inf` like reals, `on` like a truth value.
-/

namespace SchemaJoins.Yaml

inductive Kind where
  | null
  | truth
  | integer
  | real
  | bytes
  | timestamp
  | orderedMap
  | pairs
  | set
  | text
  | sequence
  | mapping
  /-- The key `<<`, whose value is merged into the mapping around it. -/
  | merge
  /-- The key `=`. -/
  | value
  | unknown
  deriving DecidableEq, Repr

namespace Kind

def ofAddress (address : String) : Kind :=
  match address with
  | "tag:yaml.org,2002:null" => .null
  | "tag:yaml.org,2002:bool" => .truth
  | "tag:yaml.org,2002:int" => .integer
  | "tag:yaml.org,2002:float" => .real
  | "tag:yaml.org,2002:binary" => .bytes
  | "tag:yaml.org,2002:timestamp" => .timestamp
  | "tag:yaml.org,2002:omap" => .orderedMap
  | "tag:yaml.org,2002:pairs" => .pairs
  | "tag:yaml.org,2002:set" => .set
  | "tag:yaml.org,2002:str" => .text
  | "tag:yaml.org,2002:seq" => .sequence
  | "tag:yaml.org,2002:map" => .mapping
  | "tag:yaml.org,2002:merge" => .merge
  | "tag:yaml.org,2002:value" => .value
  | _ => .unknown

def nullWords : List String := ["", "~", "null", "Null", "NULL"]

def truthWords : List String := [
  "yes", "Yes", "YES", "no", "No", "NO", "true", "True", "TRUE", "false", "False", "FALSE",
  "on", "On", "ON", "off", "Off", "OFF"]

def dropSign : List Char → List Char
  | '-' :: cs => cs
  | '+' :: cs => cs
  | cs => cs

def isFigure (c : Char) : Bool := c.isDigit || c == '_'

/-- One or more groups of a colon and at most two digits, below sixty; the rest
follows. -/
def sixties? : Nat → List Char → Option (List Char)
  | 0, _ => none
  | fuel + 1, cs =>
      let next? : Option (List Char) := match cs with
        | ':' :: a :: b :: rest =>
            if a.isDigit && b.isDigit then if a ≤ '5' then some rest else none
            else if a.isDigit then some (b :: rest)
            else none
        | [':', a] => if a.isDigit then some [] else none
        | _ => none
      next?.map fun rest => (sixties? fuel rest).getD rest

/-- Binary, octal, decimal, hexadecimal or in base sixty; underscores do not
count. -/
def looksInteger (cs : List Char) : Bool :=
  match dropSign cs with
  | ['0'] => true
  | '0' :: 'b' :: c :: rest => (c :: rest).all fun c => c == '0' || c == '1' || c == '_'
  | '0' :: 'x' :: c :: rest => (c :: rest).all fun c => c.isDigit || c == '_' ||
      (decide ('a' ≤ c) && decide (c ≤ 'f')) || (decide ('A' ≤ c) && decide (c ≤ 'F'))
  | '0' :: rest => rest.all fun c => (decide ('0' ≤ c) && decide (c ≤ '7')) || c == '_'
  | c :: rest =>
      c.isDigit &&
        (match rest.dropWhile isFigure with
         | [] => true
         | rest => sixties? (rest.length + 1) rest == some [])
  | [] => false

def endsReal : List Char → Bool
  | [] => true
  | e :: s :: d :: rest =>
      (e == 'e' || e == 'E') && (s == '-' || s == '+') && (d :: rest).all Char.isDigit
  | _ => false

def infinityWords : List String := [".inf", ".Inf", ".INF"]

def nanWords : List String := [".nan", ".NaN", ".NAN"]

/-- With a point; in base sixty too. A number that starts with the point has no
sign. -/
def looksReal (cs : List Char) : Bool :=
  infinityWords.contains (String.ofList (dropSign cs)) ||
    nanWords.contains (String.ofList cs) ||
    (match cs with
     | '.' :: d :: rest => d.isDigit && endsReal (rest.dropWhile isFigure)
     | _ => false) ||
    (match dropSign cs with
     | d :: rest =>
         d.isDigit &&
           (match rest.dropWhile isFigure with
            | '.' :: rest => endsReal (rest.dropWhile isFigure)
            | rest =>
                match sixties? (rest.length + 1) rest with
                | some ('.' :: rest) => rest.all isFigure
                | _ => false)
     | [] => false)

def ofPlain (text : String) : Kind :=
  let cs := text.toList
  if nullWords.contains text then .null
  else if truthWords.contains text then .truth
  else if looksReal cs then .real
  else if looksInteger cs then .integer
  else if Timestamp.isRecognised cs then .timestamp
  else if text == "<<" then .merge
  else if text == "=" then .value
  else .text

end Kind

end SchemaJoins.Yaml
