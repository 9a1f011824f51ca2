import SchemaJoins.Source.Expression

/-! # Patterns

The patterns of a `match` statement. Only their form matters; the expressions in
them are constants and names.
-/

namespace SchemaJoins.Source.Rule

def patternNode (line : Nat) (parts : List Node) : Node := .other line .pattern parts

def isImaginary : Constant → Bool
  | .imaginary _ => true
  | _ => false

/-- A number with or without a minus sign; a sum needs a real first part and an
imaginary second one. -/
def numberPattern (ts : List Token) : Option (Node × List Token) :=
  let line := lineOf ts
  let (negative, rest) := match operator "-" ts with
    | some rest => (true, rest)
    | none => (false, ts)
  match rest with
  | ⟨.number c, _⟩ :: rest =>
      let first := if negative then Node.sign line true (.constant line c) else .constant line c
      match operatorAmong? ["+", "-"] rest with
      | none => some (first, rest)
      | some (⟨.number d, _⟩ :: rest) =>
          if !isImaginary c && isImaginary d then
            some (.other line .binary [first, .constant line d], rest)
          else none
      | some _ => none
  | _ => none

def literalPattern (g : Grammar) (ts : List Token) : Option (Node × List Token) :=
  match ts with
  | ⟨.string _, line⟩ :: _ => do
      let (parts, rest) := stringsAt ts
      return (← joinStrings g line parts, rest)
  | ⟨.keyword k, line⟩ :: rest => do return (.constant line (← constantOf? k), rest)
  | _ => numberPattern ts

def members : List Token → Node → Node × List Token
  | ⟨.operator ".", _⟩ :: ⟨.name _, _⟩ :: rest, x => members rest (.other x.line .member [x])
  | ts, x => (x, ts)

def memberPattern (ts : List Token) : Option (Node × List Token) :=
  match ts with
  | ⟨.name _, line⟩ :: ⟨.operator ".", line'⟩ :: rest =>
      let (x, rest) := members (⟨.operator ".", line'⟩ :: rest) (.other line .name [])
      match x with
      | .other _ .member _ => some (x, rest)
      | _ => none
  | _ => none

/-- A name that takes a value; `_` takes none. -/
def captureName (ts : List Token) : Option (List Token) :=
  match ts with
  | ⟨.name s, _⟩ :: rest =>
      if s == "_" || [".", "(", "="].any (isOperator · rest) then none else some rest
  | _ => none

def sequenceItem (g : Grammar) (ts : List Token) : Option (Node × List Token) :=
  match operator "*" ts with
  | some rest =>
      let line := lineOf ts
      if isName "_" rest then some (patternNode line [], rest.tail)
      else do return (patternNode line [], ← captureName rest)
  | none => g .pattern ts

def mappingItem (g : Grammar) (ts : List Token) : Option ((Bool × Node) × List Token) :=
  match operator "**" ts with
  | some rest => do return ((true, patternNode (lineOf ts) []), ← captureName rest)
  | none => do
      let (key, rest) ← literalPattern g ts <|> memberPattern ts
      let (value, rest) ← g .pattern (← operator ":" rest)
      return ((false, patternNode (lineOf ts) [key, value]), rest)

/-- Only the last item of a map may take the rest. -/
def mappingPattern (g : Grammar) (line : Nat) (ts : List Token) : Option (Node × List Token) := do
  let (xs, rest) ← itemsUntil "\x7d" (mappingItem g) ts
  if xs.dropLast.any (·.1) then none else some (patternNode line (xs.map (·.2)), rest)

def classItem (g : Grammar) (ts : List Token) : Option ((Bool × Node) × List Token) :=
  match ts with
  | ⟨.name _, _⟩ :: ⟨.operator "=", _⟩ :: rest => do
      let (value, rest) ← g .pattern rest
      return ((true, value), rest)
  | _ => do
      let (value, rest) ← g .pattern ts
      return ((false, value), rest)

def classPattern (g : Grammar) (x : Node) (ts : List Token) : Option (Node × List Token) := do
  let (xs, rest) ← itemsUntil ")" (classItem g) ts
  if (xs.dropWhile (!·.1)).any (!·.1) then none
  else some (patternNode x.line (x :: xs.map (·.2)), rest)

def groupPattern (g : Grammar) (line : Nat) (ts : List Token) : Option (Node × List Token) :=
  if isOperator ")" ts then some (patternNode line [], ts.tail)
  else do
    let (xs, trailing, rest) ← commaSeparated (sequenceItem g) ts ts
    let rest ← operator ")" rest
    match xs, trailing with
    | [x], false => if isOperator "*" ts then none else some (x, rest)
    | _, _ => some (patternNode line xs, rest)

def closedPattern (g : Grammar) (ts : List Token) : Option (Node × List Token) :=
  match ts with
  | ⟨.operator "(", line⟩ :: rest => groupPattern g line rest
  | ⟨.operator "[", line⟩ :: rest => do
      let (xs, rest) ← itemsUntil "]" (sequenceItem g) rest
      return (patternNode line xs, rest)
  | ⟨.operator "\x7b", line⟩ :: rest => mappingPattern g line rest
  | ⟨.name s, line⟩ :: rest =>
      if s == "_" then some (patternNode line [], rest)
      else
        match captureName ts with
        | some rest => some (patternNode line [], rest)
        | none => do
            let (x, rest) := members rest (.other line .name [])
            match operator "(" rest with
            | some rest => classPattern g x rest
            | none => if isOperator "=" rest then none else some (x, rest)
  | _ => literalPattern g ts

def pattern (g : Grammar) (ts : List Token) : Option (Node × List Token) := do
  let (first, rest) ← closedPattern g ts
  let (more, rest) ← many (fun ts => do closedPattern g (← operator "|" ts)) rest rest
  let whole := if more.isEmpty then first else patternNode (lineOf ts) (first :: more)
  match keyword "as" rest with
  | some rest => do return (patternNode (lineOf ts) [whole], ← captureName rest)
  | none => some (whole, rest)

def patterns (g : Grammar) (ts : List Token) : Option (Node × List Token) := do
  let (xs, trailing, rest) ← commaSeparated (sequenceItem g) ts ts
  match xs, trailing with
  | [x], false => if isOperator "*" ts then none else some (x, rest)
  | _, _ => some (patternNode (lineOf ts) xs, rest)

end SchemaJoins.Source.Rule
