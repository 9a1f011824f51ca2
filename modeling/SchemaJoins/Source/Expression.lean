import SchemaJoins.Source.Interpolation
import SchemaJoins.Source.Rule
import SchemaJoins.Text.LetterForms

/-! # Expressions

The rules for expressions, from displays and calls up to conditional expressions
and functions without a name.
-/

namespace SchemaJoins.Source.Rule

def named (g : Grammar) (ts : List Token) : Option (Node × List Token) :=
  match ts with
  | ⟨.name _, line⟩ :: ⟨.operator ":=", _⟩ :: rest => do
      let (value, rest) ← g .expression rest
      return (.other line .assignment [.other line .name [], value], rest)
  | _ => g .expression ts

def starredOr (starred plain : Parse Node) (ts : List Token) : Option (Node × List Token) :=
  match operator "*" ts with
  | some rest => do
      let (inner, rest) ← starred rest
      return (.other (lineOf ts) .unpacking [inner], rest)
  | none => plain ts

def item (g : Grammar) : Parse Node := starredOr (g .bitwise) (named g)

/-- Expressions between commas are a tuple; a single one is itself. -/
def tupleOf (item : Parse Node) (ts : List Token) : Option (Node × List Token) := do
  let (xs, trailing, rest) ← commaSeparated item ts ts
  match xs, trailing with
  | [x], false => some (x, rest)
  | _, _ => some (.tuple (lineOf ts) xs, rest)

def starExpressions (g : Grammar) : Parse Node := tupleOf (starredOr (g .bitwise) (g .expression))

def yielded (g : Grammar) (ts : List Token) : Option (Node × List Token) := do
  let line := lineOf ts
  let rest ← keyword "yield" ts
  match keyword "from" rest with
  | some rest => do
      let (source, rest) ← g .expression rest
      return (.other line .yieldFrom [source], rest)
  | none =>
      match starExpressions g rest with
      | some (value, rest) => some (.other line .yield [value], rest)
      | none => some (.other line .yield [], rest)

def targets (g : Grammar) (ts : List Token) : Option (Node × List Token) := do
  let (target, rest) ← tupleOf (starredOr (g .bitwise) (g .bitwise)) ts
  if target.isTarget then some (target, rest) else none

def condition (g : Grammar) (ts : List Token) : Option (Node × List Token) := do
  g .disjunction (← keyword "if" ts)

def clause (g : Grammar) (ts : List Token) : Option (Node × List Token) := do
  let line := lineOf ts
  let ts := (keyword "async" ts).getD ts
  let (target, rest) ← targets g (← keyword "for" ts)
  let (source, rest) ← g .disjunction (← keyword "in" rest)
  let (conditions, rest) ← many (condition g) rest rest
  return (.other line .comprehensionClause (target :: source :: conditions), rest)

def clauses (g : Grammar) (ts : List Token) : Option (List Node × List Token) := do
  let (first, rest) ← clause g ts
  let (more, rest) ← many (clause g) rest rest
  return (first :: more, rest)

def startsClause (ts : List Token) : Bool := isKeyword "for" ts || isKeyword "async" ts

def isStarred : Node → Bool
  | .other _ .unpacking _ => true
  | _ => false

def parenthesised (g : Grammar) (line : Nat) (ts : List Token) : Option (Node × List Token) :=
  if isOperator ")" ts then some (.tuple line [], ts.tail)
  else if isKeyword "yield" ts then do
    let (inner, rest) ← yielded g ts
    return (inner, ← operator ")" rest)
  else do
    let (first, rest) ← item g ts
    if startsClause rest && !isStarred first then do
      let (loops, rest) ← clauses g rest
      return (.other line .generator (first :: loops), ← operator ")" rest)
    else if isOperator "," rest then do
      let (more, rest) ← itemsUntil ")" (item g) rest.tail
      return (.tuple line (first :: more), rest)
    else if isStarred first then none
    else return (first, ← operator ")" rest)

def bracketed (g : Grammar) (line : Nat) (ts : List Token) : Option (Node × List Token) :=
  if isOperator "]" ts then some (.list line [], ts.tail)
  else do
    let (first, rest) ← item g ts
    if startsClause rest && !isStarred first then do
      let (loops, rest) ← clauses g rest
      return (.other line .listComprehension (first :: loops), ← operator "]" rest)
    else if isOperator "," rest then do
      let (more, rest) ← itemsUntil "]" (item g) rest.tail
      return (.list line (first :: more), rest)
    else return (.list line [first], ← operator "]" rest)

def entry (g : Grammar) (ts : List Token) : Option ((Option Node × Node) × List Token) :=
  match operator "**" ts with
  | some rest => do
      let (inner, rest) ← g .bitwise rest
      return ((none, inner), rest)
  | none => do
      let (key, rest) ← g .expression ts
      let (value, rest) ← g .expression (← operator ":" rest)
      return ((some key, value), rest)

def startsNaming : List Token → Bool
  | ⟨.name _, _⟩ :: ⟨.operator o, _⟩ :: _ => o == ":="
  | _ => false

def mapFrom (g : Grammar) (line : Nat) (first : Option Node × Node) (ts : List Token) :
    Option (Node × List Token) :=
  if isOperator "," ts then do
    let (more, rest) ← itemsUntil "\x7d" (entry g) ts.tail
    return (.map line (first :: more), rest)
  else do return (.map line [first], ← operator "\x7d" ts)

def braced (g : Grammar) (line : Nat) (ts : List Token) : Option (Node × List Token) :=
  if isOperator "\x7d" ts then some (.map line [], ts.tail)
  else if isOperator "**" ts then do
    let (first, rest) ← entry g ts
    mapFrom g line first rest
  else do
    let (first, rest) ← item g ts
    if isOperator ":" rest then
      if isStarred first || startsNaming ts then none
      else do
        let (value, rest) ← g .expression rest.tail
        if startsClause rest then do
          let (loops, rest) ← clauses g rest
          return (.other line .mapComprehension (first :: value :: loops), ← operator "\x7d" rest)
        else mapFrom g line (some first, value) rest
    else if startsClause rest && !isStarred first then do
      let (loops, rest) ← clauses g rest
      return (.other line .setComprehension (first :: loops), ← operator "\x7d" rest)
    else if isOperator "," rest then do
      let (more, rest) ← itemsUntil "\x7d" (item g) rest.tail
      return (.other line .set (first :: more), rest)
    else return (.other line .set [first], ← operator "\x7d" rest)

def stringsAt : List Token → List (Quotation × Nat) × List Token
  | ⟨.string q, line⟩ :: rest =>
      let (more, rest) := stringsAt rest
      ((q, line) :: more, rest)
  | ts => ([], ts)

def fieldNodes (g : Grammar) (q : Quotation) (line : Nat) : Option (List Node) :=
  if !q.formatted then do
    let _ ← q.text?
    return []
  else do
    let fields ← Interpolation.fields? q line
    fields.mapM fun field => do
      let (node, rest) ← starExpressions g (← field.tokens?)
      match rest with
      | [⟨.stop, _⟩] => some node
      | _ => none

/-- Strings in a row are one string; texts and bytes do not mix. -/
def joinStrings (g : Grammar) (line : Nat) (parts : List (Quotation × Nat)) : Option Node :=
  if parts.all (·.1.bytes) then do
    let data ← parts.mapM (·.1.bytes?)
    return .constant line (.bytes data.flatten)
  else if parts.any (·.1.bytes) then none
  else if parts.any (·.1.formatted) then do
    let nodes ← parts.mapM fun (q, line) => fieldNodes g q line
    return .other line .interpolation nodes.flatten
  else do
    let texts ← parts.mapM (·.1.text?)
    return .constant line (.text (String.ofList texts.flatten))

def constantOf? : String → Option Constant
  | "None" => some .null
  | "True" => some (.bool true)
  | "False" => some (.bool false)
  | _ => none

def atom (g : Grammar) (ts : List Token) : Option (Node × List Token) :=
  match ts with
  | ⟨.name _, line⟩ :: rest => some (.other line .name [], rest)
  | ⟨.number c, line⟩ :: rest => some (.constant line c, rest)
  | ⟨.keyword k, line⟩ :: rest => do return (.constant line (← constantOf? k), rest)
  | ⟨.operator "...", line⟩ :: rest => some (.constant line .ellipsis, rest)
  | ⟨.operator "(", line⟩ :: rest => parenthesised g line rest
  | ⟨.operator "[", line⟩ :: rest => bracketed g line rest
  | ⟨.operator "\x7b", line⟩ :: rest => braced g line rest
  | ⟨.string _, line⟩ :: _ => do
      let (parts, rest) := stringsAt ts
      return (← joinStrings g line parts, rest)
  | _ => none

/-- How far the arguments of a call have come: by position, by name, or after an
unpacked map. -/
inductive Stage where
  | positional
  | byName
  | unpacked
  deriving DecidableEq

def argument (g : Grammar) (stage : Stage) (ts : List Token) :
    Option ((Node × Stage) × List Token) :=
  match ts with
  | ⟨.operator "*", line⟩ :: rest =>
      if stage = .unpacked then none
      else do
        let (inner, rest) ← g .expression rest
        return ((.other line .unpacking [inner], stage), rest)
  | ⟨.operator "**", _⟩ :: rest => do
      let (inner, rest) ← g .expression rest
      return ((.argument none inner, .unpacked), rest)
  | ⟨.name s, _⟩ :: ⟨.operator "=", _⟩ :: rest => do
      let (value, rest) ← g .expression rest
      return ((.argument (some (Text.basicName s)) value,
        if stage = .positional then .byName else stage), rest)
  | _ =>
      if stage = .positional then do
        let (value, rest) ← named g ts
        return ((value, .positional), rest)
      else none

/-- The arguments up to the closing bracket. The first list bounds their number. -/
def argumentsFrom (g : Grammar) (stage : Stage) : List Token → Parse (List Node)
  | [], _ => none
  | _ :: bound, ts => do
      let ((x, stage), rest) ← argument g stage ts
      if isOperator "," rest then
        if isOperator ")" rest.tail then some ([x], rest.tail.tail)
        else do
          let (xs, rest) ← argumentsFrom g stage bound rest.tail
          return (x :: xs, rest)
      else do return ([x], ← operator ")" rest)

def isNamedArgument : Node → Bool
  | .argument .. => true
  | _ => false

/-- Arguments by position come before those by name. -/
def arranged (xs : List Node) : List Node :=
  xs.filter (!isNamedArgument ·) ++ xs.filter isNamedArgument

def arguments (g : Grammar) (ts : List Token) : Option (List Node × List Token) :=
  if isOperator ")" ts then some ([], ts.tail)
  else do
    let (xs, rest) ← argumentsFrom g .positional ts ts
    return (arranged xs, rest)

/-- What stands in the brackets of a call. A generator as the only argument needs
no brackets of its own. -/
def callArguments (g : Grammar) (line : Nat) (ts : List Token) : Option (List Node × List Token) :=
  if isOperator ")" ts then some ([], ts.tail)
  else do
    let ((x, stage), rest) ← argument g .positional ts
    if isOperator ")" rest then some ([x], rest.tail)
    else if isOperator "," rest then
      if isOperator ")" rest.tail then some ([x], rest.tail.tail)
      else do
        let (xs, rest) ← argumentsFrom g stage ts rest.tail
        return (arranged (x :: xs), rest)
    else if startsClause rest && stage = .positional && !isStarred x then do
      let (loops, rest) ← clauses g rest
      return ([.other line .generator (x :: loops)], ← operator ")" rest)
    else none

def bound (g : Grammar) (ts : List Token) : Option (List Node × List Token) :=
  if [":", ",", "]"].any (isOperator · ts) then some ([], ts)
  else do
    let (x, rest) ← g .expression ts
    return ([x], rest)

def slice (g : Grammar) (ts : List Token) : Option (Node × List Token) :=
  let line := lineOf ts
  let range (lower : List Node) (rest : List Token) : Option (Node × List Token) := do
    let (upper, rest) ← bound g rest
    let (step, rest) ← if isOperator ":" rest then bound g rest.tail else some ([], rest)
    return (.other line .slice (lower ++ upper ++ step), rest)
  if isOperator ":" ts then range [] ts.tail
  else if isOperator "*" ts then do
    let (inner, rest) ← g .expression ts.tail
    return (.other line .unpacking [inner], rest)
  else do
    let (x, rest) ← named g ts
    if isOperator ":" rest && !startsNaming ts then range [x] rest.tail else some (x, rest)

def slices (g : Grammar) (ts : List Token) : Option (Node × List Token) := do
  let (xs, trailing, rest) ← commaSeparated (slice g) ts ts
  let rest ← operator "]" rest
  match xs, trailing with
  | [x], false => if isStarred x then some (.tuple (lineOf ts) [x], rest) else some (x, rest)
  | _, _ => some (.tuple (lineOf ts) xs, rest)

/-- Members, calls and positions after an expression that starts on a line. The
first list bounds their number. -/
def trailers (g : Grammar) (start : Nat) : List Token → Node → Parse Node
  | [], x, ts => some (x, ts)
  | _ :: bound, x, ts =>
      match ts with
      | ⟨.operator ".", _⟩ :: ⟨.name _, _⟩ :: rest =>
          trailers g start bound (.other start .member [x]) rest
      | ⟨.operator "(", line⟩ :: rest => do
          let (xs, rest) ← callArguments g line rest
          trailers g start bound (.other start .call (x :: xs)) rest
      | ⟨.operator "[", _⟩ :: rest => do
          let (position, rest) ← slices g rest
          trailers g start bound (.other start .subscript [x, position]) rest
      | _ => some (x, ts)

def primary (g : Grammar) (ts : List Token) : Option (Node × List Token) := do
  let (x, rest) ← atom g ts
  trailers g (lineOf ts) rest x rest

def awaited (g : Grammar) (ts : List Token) : Option (Node × List Token) :=
  match keyword "await" ts with
  | some rest => do
      let (x, rest) ← primary g rest
      return (.other (lineOf ts) .await [x], rest)
  | none => primary g ts

def power (g : Grammar) (ts : List Token) : Option (Node × List Token) := do
  let (base, rest) ← awaited g ts
  match operator "**" rest with
  | some rest => do
      let (exponent, rest) ← g .factor rest
      return (.other (lineOf ts) .binary [base, exponent], rest)
  | none => some (base, rest)

def factor (g : Grammar) (ts : List Token) : Option (Node × List Token) :=
  match ts with
  | ⟨.operator "-", line⟩ :: rest => do
      let (x, rest) ← g .factor rest
      return (.sign line true x, rest)
  | ⟨.operator "+", line⟩ :: rest => do
      let (x, rest) ← g .factor rest
      return (.sign line false x, rest)
  | ⟨.operator "~", line⟩ :: rest => do
      let (x, rest) ← g .factor rest
      return (.other line .complement [x], rest)
  | _ => power g ts

def bitwise (g : Grammar) : Parse Node :=
  [["*", "/", "//", "%", "@"], ["+", "-"], ["<<", ">>"], ["&"], ["^"], ["|"]].foldl
    (fun operand os => binary os operand) (factor g)

def comparator? : List Token → Option (List Token)
  | ⟨.keyword "not", _⟩ :: ⟨.keyword "in", _⟩ :: rest => some rest
  | ⟨.keyword "in", _⟩ :: rest => some rest
  | ⟨.keyword "is", _⟩ :: ⟨.keyword "not", _⟩ :: rest => some rest
  | ⟨.keyword "is", _⟩ :: rest => some rest
  | ts => operatorAmong? ["==", "!=", "<=", "<", ">=", ">"] ts

def compared (g : Grammar) (ts : List Token) : Option (Node × List Token) := do
  g .bitwise (← comparator? ts)

def comparison (g : Grammar) (ts : List Token) : Option (Node × List Token) := do
  let (left, rest) ← bitwise g ts
  if (comparator? rest).isSome then do
    let (first, rest) ← compared g rest
    let (more, rest) ← many (compared g) rest rest
    return (.other (lineOf ts) .comparison (left :: first :: more), rest)
  else some (left, rest)

def inversion (g : Grammar) (ts : List Token) : Option (Node × List Token) :=
  match keyword "not" ts with
  | some rest => do
      let (x, rest) ← g .inversion rest
      return (.other (lineOf ts) .complement [x], rest)
  | none => comparison g ts

def logical (word : String) (operand : Parse Node) (ts : List Token) :
    Option (Node × List Token) := do
  let (left, rest) ← operand ts
  if isKeyword word rest then do
    let (more, rest) ← many (fun ts => do operand (← keyword word ts)) rest rest
    return (.other (lineOf ts) .logical (left :: more), rest)
  else some (left, rest)

def disjunction (g : Grammar) : Parse Node := logical "or" (logical "and" (inversion g))

structure Signature where
  /-- The types of parameters by position, of the collected rest, of those by
  name and of the collected map. -/
  types : List Node := []
  byName : List Node := []
  ofMap : List Node := []
  defaults : List Node := []

inductive ParameterStage where
  /-- Parameters without a default, before a bar. -/
  | plain
  /-- The row holds a parameter, so that a bar may follow. -/
  | started
  | defaulted
  /-- Parameters after a star: at least one must follow a bare star. -/
  | afterBareStar
  | afterStar
  | closed
  deriving DecidableEq

/-- What a parameter of a row gives, where it ends, and the stage after it. -/
structure ParameterRule where
  parameterType : Parse (List Node)
  restType : Parse (List Node)
  /-- The operator after the last parameter. -/
  close : String

def defaultValue (g : Grammar) (ts : List Token) : Option (List Node × List Token) :=
  match operator "=" ts with
  | some rest => do
      let (x, rest) ← g .expression rest
      return ([x], rest)
  | none => some ([], ts)

structure ParameterState where
  stage : ParameterStage := .plain
  barred : Bool := false
  signature : Signature := {}

def ordinaryParameter (g : Grammar) (p : ParameterRule) (s : ParameterState) (ts : List Token) :
    Option (ParameterState × List Token) := do
  let (_, rest) ← name ts
  let (type, rest) ← p.parameterType rest
  let (default, rest) ← defaultValue g rest
  let sig := s.signature
  match s.stage with
  | .closed => none
  | .afterStar | .afterBareStar =>
      some ({ s with
        stage := .afterStar
        signature := { sig with
          types := sig.types ++ type
          byName := sig.byName ++ default } }, rest)
  | stage =>
      if stage = .defaulted ∧ default.isEmpty then none
      else some ({ s with
        stage := if default.isEmpty then .started else .defaulted
        signature := { sig with
          types := sig.types ++ type
          defaults := sig.defaults ++ default } }, rest)

def parameter (g : Grammar) (p : ParameterRule) (s : ParameterState) (ts : List Token) :
    Option (ParameterState × List Token) :=
  let sig := s.signature
  let beforeStar := s.stage = .plain ∨ s.stage = .started ∨ s.stage = .defaulted
  match ts with
  | ⟨.operator "/", _⟩ :: rest =>
      if (s.stage = .started ∨ s.stage = .defaulted) ∧ !s.barred then
        some ({ s with barred := true }, rest)
      else none
  | ⟨.operator "**", _⟩ :: rest => do
      if s.stage = .closed ∨ s.stage = .afterBareStar then none
      else
        let (_, rest) ← name rest
        let (type, rest) ← p.parameterType rest
        some ({ s with stage := .closed, signature := { sig with ofMap := type } }, rest)
  | ⟨.operator "*", _⟩ :: rest =>
      if !beforeStar then none
      else if isOperator "," rest then some ({ s with stage := .afterBareStar }, rest)
      else do
        let (_, rest) ← name rest
        let (type, rest) ← p.restType rest
        some ({ s with
          stage := .afterStar
          signature := { sig with types := sig.types ++ type } }, rest)
  | _ => ordinaryParameter g p s ts

def parametersFrom (g : Grammar) (p : ParameterRule) (s : ParameterState) :
    List Token → Parse ParameterState
  | [], _ => none
  | _ :: bound, ts =>
      if isOperator p.close ts then
        if s.stage = .afterBareStar then none else some (s, ts)
      else do
        let (s, rest) ← parameter g p s ts
        if isOperator "," rest then parametersFrom g p s bound rest.tail
        else if isOperator p.close rest && s.stage ≠ .afterBareStar then some (s, rest)
        else none

/-- The parts of a row of parameters in order: types, defaults of those by
name, the type of the collected map and the other defaults. -/
def Signature.parts (s : Signature) : List Node := s.types ++ s.byName ++ s.ofMap ++ s.defaults

def parameters (g : Grammar) (p : ParameterRule) (ts : List Token) :
    Option (Node × List Token) := do
  let (s, rest) ← parametersFrom g p {} ts ts
  return (.other (lineOf ts) .parameters s.signature.parts, rest)

def untyped : Parse (List Node) := fun ts => some ([], ts)

def function (g : Grammar) (ts : List Token) : Option (Node × List Token) := do
  let (ps, rest) ← parameters g ⟨untyped, untyped, ":"⟩ (← keyword "lambda" ts)
  let (body, rest) ← g .expression (← operator ":" rest)
  return (.other (lineOf ts) .function [ps, body], rest)

def expression (g : Grammar) (ts : List Token) : Option (Node × List Token) :=
  if isKeyword "lambda" ts then function g ts
  else do
    let (x, rest) ← disjunction g ts
    match keyword "if" rest with
    | none => some (x, rest)
    | some rest => do
        let (test, rest) ← disjunction g rest
        let (other, rest) ← g .expression (← keyword "else" rest)
        return (.other (lineOf ts) .conditional [test, x, other], rest)

end SchemaJoins.Source.Rule
