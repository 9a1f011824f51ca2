import SchemaJoins.Source.Pattern

/-! # Statements -/

namespace SchemaJoins.Source.Rule

def statementNode (ts : List Token) (parts : List Node) : Node :=
  .other (lineOf ts) .statement parts

def assigned (g : Grammar) (ts : List Token) : Option (Node × List Token) :=
  if isKeyword "yield" ts then yielded g ts else starExpressions g ts

def augmentedOperators : List String :=
  ["+=", "-=", "*=", "@=", "/=", "%=", "&=", "|=", "^=", "<<=", ">>=", "**=", "//="]

/-- The values assigned after a first place: every one but the last is a place
again. The first list bounds their number. -/
def assignments (g : Grammar) : List Token → Parse (List Node)
  | [], _ => none
  | _ :: bound, ts => do
      let fromYield := isKeyword "yield" ts
      let (x, rest) ← assigned g ts
      match operator "=" rest with
      | none => some ([x], rest)
      | some rest =>
          if fromYield || !x.isTarget then none
          else do
            let (xs, rest) ← assignments g bound rest
            return (x :: xs, rest)

def annotated (g : Grammar) (place : Node) (ts : List Token) : Option (List Node × List Token) := do
  let (type, rest) ← g .expression ts
  match operator "=" rest with
  | none => some ([place, type], rest)
  | some rest => do
      let (value, rest) ← assigned g rest
      return ([place, type, value], rest)

def expressionStatement (g : Grammar) (ts : List Token) : Option (List Node × List Token) :=
  if isKeyword "yield" ts then do
    let (x, rest) ← yielded g ts
    return ([x], rest)
  else do
    let (x, rest) ← starExpressions g ts
    match operator "=" rest, operator ":" rest, operatorAmong? augmentedOperators rest with
    | some rest, _, _ =>
        if x.isTarget then do
          let (xs, rest) ← assignments g ts rest
          return (x :: xs, rest)
        else none
    | _, some rest, _ => if x.isPlace then annotated g x rest else none
    | _, _, some rest =>
        if x.isPlace then do
          let (value, rest) ← assigned g rest
          return ([x, value], rest)
        else none
    | _, _, _ => some ([x], rest)

def withOptional (g : Grammar) (between : List Token → Option (List Token)) (ts : List Token) :
    Option (List Node × List Token) := do
  let (x, rest) ← g .expression ts
  match between rest with
  | none => some ([x], rest)
  | some rest => do
      let (y, rest) ← g .expression rest
      return ([x, y], rest)

def atEnd (ts : List Token) : Bool :=
  isOperator ";" ts || (mark .newline ts).isSome

def raised (g : Grammar) (ts : List Token) : Option (List Node × List Token) :=
  if atEnd ts then some ([], ts) else withOptional g (keyword "from") ts

def returned (g : Grammar) (ts : List Token) : Option (List Node × List Token) :=
  if atEnd ts then some ([], ts)
  else do
    let (x, rest) ← starExpressions g ts
    return ([x], rest)

def deleted (g : Grammar) (ts : List Token) : Option (List Node × List Token) := do
  let (xs, _, rest) ← commaSeparated (g .bitwise) ts ts
  if Node.areRemovable xs && atEnd rest then some (xs, rest) else none

def names (ts : List Token) : Option (List Node × List Token) := do
  let (_, trailing, rest) ← commaSeparated name ts ts
  if trailing then none else some ([], rest)

def dottedName (ts : List Token) : Option (List Token) := do
  let (_, rest) ← name ts
  let (_, rest) ← many (fun ts => do name (← operator "." ts)) rest rest
  return rest

def renamed (ts : List Token) : Option (Unit × List Token) :=
  match keyword "as" ts with
  | some rest => do
      let (_, rest) ← name rest
      return ((), rest)
  | none => some ((), ts)

def importedModule (ts : List Token) : Option (Unit × List Token) := do renamed (← dottedName ts)

def importedName (ts : List Token) : Option (Unit × List Token) := do
  let (_, rest) ← name ts
  renamed rest

def imported (ts : List Token) : Option (List Node × List Token) := do
  let (_, trailing, rest) ← commaSeparated importedModule ts ts
  if trailing then none else some ([], rest)

def levels : List Token → List Token
  | ⟨.operator ".", _⟩ :: rest => levels rest
  | ⟨.operator "...", _⟩ :: rest => levels rest
  | ts => ts

def importedNames (ts : List Token) : Option (List Node × List Token) :=
  match operator "(" ts, operator "*" ts with
  | some rest, _ => do
      let (_, _, rest) ← commaSeparated importedName rest rest
      return ([], ← operator ")" rest)
  | _, some rest => some ([], rest)
  | _, _ => do
      let (_, trailing, rest) ← commaSeparated importedName ts ts
      if trailing then none else some ([], rest)

def importedFrom (ts : List Token) : Option (List Node × List Token) := do
  let rest := levels ts
  let rest ← match dottedName rest with
    | some rest => some rest
    | none => if rest.length < ts.length then some rest else none
  importedNames (← keyword "import" rest)

def simpleParts (g : Grammar) (ts : List Token) : Option (List Node × List Token) :=
  match ts with
  | ⟨.keyword "pass", _⟩ :: rest => some ([], rest)
  | ⟨.keyword "break", _⟩ :: rest => some ([], rest)
  | ⟨.keyword "continue", _⟩ :: rest => some ([], rest)
  | ⟨.keyword "return", _⟩ :: rest => returned g rest
  | ⟨.keyword "raise", _⟩ :: rest => raised g rest
  | ⟨.keyword "global", _⟩ :: rest => names rest
  | ⟨.keyword "nonlocal", _⟩ :: rest => names rest
  | ⟨.keyword "del", _⟩ :: rest => deleted g rest
  | ⟨.keyword "assert", _⟩ :: rest => withOptional g (operator ",") rest
  | ⟨.keyword "import", _⟩ :: rest => imported rest
  | ⟨.keyword "from", _⟩ :: rest => importedFrom rest
  | _ => expressionStatement g ts

def simple (g : Grammar) (ts : List Token) : Option (Node × List Token) := do
  let (parts, rest) ← simpleParts g ts
  return (statementNode ts parts, rest)

def simpleLine (g : Grammar) : List Token → Parse (List Node)
  | [], _ => none
  | _ :: bound, ts => do
      let (x, rest) ← simple g ts
      match operator ";" rest with
      | none => do return ([x], ← mark .newline rest)
      | some rest =>
          match mark .newline rest with
          | some rest => some ([x], rest)
          | none => do
              let (xs, rest) ← simpleLine g bound rest
              return (x :: xs, rest)

def body (g : Grammar) (ts : List Token) : Option (Node × List Token) := do
  g .block (← operator ":" ts)

def bodyAfter (g : Grammar) (word : String) (ts : List Token) : Option (List Node × List Token) :=
  match keyword word ts with
  | none => some ([], ts)
  | some rest => do
      let (x, rest) ← body g rest
      return ([x], rest)

def branch (g : Grammar) (word : String) (ts : List Token) : Option (List Node × List Token) := do
  let (test, rest) ← named g (← keyword word ts)
  let (block, rest) ← body g rest
  return ([test, block], rest)

def choice (g : Grammar) (ts : List Token) : Option (List Node × List Token) := do
  let (first, rest) ← branch g "if" ts
  let (more, rest) ← many (branch g "elif") rest rest
  let (last, rest) ← bodyAfter g "else" rest
  return (first ++ more.flatten ++ last, rest)

def whileLoop (g : Grammar) (ts : List Token) : Option (List Node × List Token) := do
  let (first, rest) ← branch g "while" ts
  let (last, rest) ← bodyAfter g "else" rest
  return (first ++ last, rest)

def forLoop (g : Grammar) (ts : List Token) : Option (List Node × List Token) := do
  let (target, rest) ← targets g (← keyword "for" ts)
  let (source, rest) ← starExpressions g (← keyword "in" rest)
  let (block, rest) ← body g rest
  let (last, rest) ← bodyAfter g "else" rest
  return (target :: source :: block :: last, rest)

def withItem (g : Grammar) (ts : List Token) : Option (Node × List Token) := do
  let (x, rest) ← g .expression ts
  match keyword "as" rest with
  | none => some (statementNode ts [x], rest)
  | some rest => do
      let (target, rest) ← starredOr (g .bitwise) (g .bitwise) rest
      if target.isTarget && [",", ")", ":"].any (isOperator · rest) then
        some (statementNode ts [x, target], rest)
      else none

def bracketedItems (g : Grammar) (ts : List Token) : Option (List Node × List Token) := do
  let rest ← operator "(" ts
  let (xs, _, rest) ← commaSeparated (withItem g) rest rest
  let rest ← operator ")" rest
  if isOperator ":" rest then some (xs, rest) else none

def plainItems (g : Grammar) (ts : List Token) : Option (List Node × List Token) := do
  let (xs, trailing, rest) ← commaSeparated (withItem g) ts ts
  if trailing then none else some (xs, rest)

def withBlock (g : Grammar) (ts : List Token) : Option (List Node × List Token) := do
  let rest ← keyword "with" ts
  let (xs, rest) ← bracketedItems g rest <|> plainItems g rest
  let (block, rest) ← body g rest
  return (xs ++ [block], rest)

def handler (g : Grammar) (ts : List Token) : Option ((Bool × Node) × List Token) := do
  let rest ← keyword "except" ts
  let (group, rest) := match operator "*" rest with
    | some rest => (true, rest)
    | none => (false, rest)
  if isOperator ":" rest then
    if group then none
    else do
      let (block, rest) ← body g rest
      return ((false, statementNode ts [block]), rest)
  else do
    let (type, rest) ← g .expression rest
    let (_, rest) ← renamed rest
    let (block, rest) ← body g rest
    return ((group, statementNode ts [type, block]), rest)

def attempt (g : Grammar) (ts : List Token) : Option (List Node × List Token) := do
  let (block, rest) ← body g (← keyword "try" ts)
  let (handlers, rest) ← many (handler g) rest rest
  let groups := handlers.map (·.1)
  if groups.any id && !groups.all id then none
  else if handlers.isEmpty then do
    let (last, rest) ← bodyAfter g "finally" rest
    if last.isEmpty then none else some (block :: last, rest)
  else do
    let (other, rest) ← bodyAfter g "else" rest
    let (last, rest) ← bodyAfter g "finally" rest
    return (block :: handlers.map (·.2) ++ other ++ last, rest)

def parameterType (inner : Parse Node) (ts : List Token) : Option (List Node × List Token) :=
  match operator ":" ts with
  | none => some ([], ts)
  | some rest => do
      let (x, rest) ← inner rest
      return ([x], rest)

def restType (g : Grammar) : Parse (List Node) :=
  parameterType (starredOr (g .bitwise) (g .expression))

def functionDefinition (g : Grammar) (decorators : List Node) (ts : List Token) :
    Option (List Node × List Token) := do
  let (_, rest) ← name (← keyword "def" ts)
  let rest ← operator "(" rest
  let rule : ParameterRule := ⟨parameterType (g .expression), restType g, ")"⟩
  let (ps, rest) ← parameters g rule rest
  let rest ← operator ")" rest
  let (result, rest) ← match operator "->" rest with
    | none => some ([], rest)
    | some rest => do
        let (x, rest) ← g .expression rest
        some ([x], rest)
  let (block, rest) ← body g rest
  return (ps :: block :: decorators ++ result, rest)

def classStatement (g : Grammar) (decorators : List Node) (ts : List Token) :
    Option (Node × List Token) := do
  let (_, rest) ← name (← keyword "class" ts)
  let (xs, rest) ← match operator "(" rest with
    | none => some ([], rest)
    | some rest => arguments g rest
  let (block, rest) ← body g rest
  return (.other (lineOf ts) .classDefinition (xs ++ block :: decorators), rest)

def decorator (g : Grammar) (ts : List Token) : Option (Node × List Token) := do
  let (x, rest) ← named g (← operator "@" ts)
  return (x, ← mark .newline rest)

def definition (g : Grammar) (ts : List Token) : Option (Node × List Token) := do
  let (decorators, rest) ← many (decorator g) ts ts
  if isKeyword "class" rest then classStatement g decorators rest
  else do
    let rest := (keyword "async" rest).getD rest
    let (parts, rest) ← functionDefinition g decorators rest
    return (statementNode ts parts, rest)

def guard (g : Grammar) (ts : List Token) : Option (List Node × List Token) :=
  match keyword "if" ts with
  | none => some ([], ts)
  | some rest => do
      let (x, rest) ← named g rest
      return ([x], rest)

def matchCase (g : Grammar) (ts : List Token) : Option (Node × List Token) := do
  if !isName "case" ts then none
  else do
    let (p, rest) ← patterns g ts.tail
    let (condition, rest) ← guard g rest
    let (block, rest) ← body g rest
    return (statementNode ts (patternNode (lineOf ts) [p] :: condition ++ [block]), rest)

def matchHead (g : Grammar) (ts : List Token) : Option (Node × List Token) := do
  if !isName "match" ts then none
  else do
    let start := ts.tail
    let (xs, trailing, rest) ← commaSeparated (item g) start start
    let rest ← mark .indent (← mark .newline (← operator ":" rest))
    match xs, trailing with
    | [x], false => if isStarred x then none else some (x, rest)
    | _, _ => some (.tuple (lineOf start) xs, rest)

def matchStatement (g : Grammar) (subject : Node) (ts : List Token) :
    Option (List Node × List Token) := do
  let (cases, rest) ← many (matchCase g) ts ts
  if cases.isEmpty then none
  else do return (subject :: cases, ← mark .dedent rest)

def compoundParts (g : Grammar) (ts : List Token) : Option (List Node × List Token) :=
  match ts with
  | ⟨.keyword "if", _⟩ :: _ => choice g ts
  | ⟨.keyword "while", _⟩ :: _ => whileLoop g ts
  | ⟨.keyword "for", _⟩ :: _ => forLoop g ts
  | ⟨.keyword "try", _⟩ :: _ => attempt g ts
  | ⟨.keyword "with", _⟩ :: _ => withBlock g ts
  | ⟨.keyword "async", _⟩ :: ⟨.keyword "for", line⟩ :: rest =>
      forLoop g (⟨.keyword "for", line⟩ :: rest)
  | ⟨.keyword "async", _⟩ :: ⟨.keyword "with", line⟩ :: rest =>
      withBlock g (⟨.keyword "with", line⟩ :: rest)
  | _ => none

def startsCompound (ts : List Token) : Bool :=
  match ts with
  | ⟨.keyword "async", _⟩ :: rest => isKeyword "for" rest || isKeyword "with" rest
  | _ => ["if", "while", "for", "try", "with"].any (isKeyword · ts)

def startsDefinition (ts : List Token) : Bool :=
  isOperator "@" ts || isKeyword "def" ts || isKeyword "class" ts ||
    (isKeyword "async" ts && isKeyword "def" ts.tail)

def statement (g : Grammar) (ts : List Token) : Option (List Node × List Token) :=
  if startsDefinition ts then do
    let (x, rest) ← definition g ts
    return ([x], rest)
  else if startsCompound ts then do
    let (parts, rest) ← compoundParts g ts
    return ([statementNode ts parts], rest)
  else
    match matchHead g ts with
    | some (subject, rest) => do
        let (parts, rest) ← matchStatement g subject rest
        return ([statementNode ts parts], rest)
    | none => simpleLine g ts ts

def statements (g : Grammar) (ts : List Token) : Option (List Node × List Token) := do
  let (first, rest) ← statement g ts
  let (more, rest) ← many (statement g) rest rest
  return (first ++ more.flatten, rest)

def block (g : Grammar) (ts : List Token) : Option (Node × List Token) :=
  match mark .newline ts with
  | some rest => do
      let (xs, rest) ← statements g (← mark .indent rest)
      return (statementNode ts xs, ← mark .dedent rest)
  | none => do
      let (xs, rest) ← simpleLine g ts ts
      return (statementNode ts xs, rest)

end SchemaJoins.Source.Rule
