import SchemaJoins.Yaml.Node
import SchemaJoins.Yaml.Token

/-! # From tokens to nodes

A text holds one document at most. Every node takes at least one token, so that
the number of tokens bounds how deep nodes lie within each other.
-/

namespace SchemaJoins.Yaml

structure Composer where
  tokens : List Token
  /-- The short forms for the beginning of tags. -/
  handles : List (String × String) := []
  /-- The nodes by anchor, absent as long as their members are read. -/
  anchors : List (String × Option Node) := []

abbrev Compose := StateT Composer (Except Flaw)

namespace Compose

def illFormed {α : Type} : Compose α := throw .illFormed

def peek : Compose Token := do
  match (← get).tokens with
  | [] => illFormed
  | .flaw f :: _ => throw f
  | t :: _ => return t

def next : Compose Token := do
  let t ← peek
  modify fun s => { s with tokens := s.tokens.drop 1 }
  return t

def expect (p : Token → Bool) : Compose Unit := do
  if !p (← next) then illFormed

/-! ## Properties of nodes -/

def tagAddress (handle : Option String) (address : String) : Compose String := do
  match handle with
  | none => return address
  | some h =>
      match (← get).handles.lookup h with
      | some start => return start ++ address
      | none => illFormed

structure Properties where
  anchor : Option String := none
  tag : Option String := none

def Properties.isOpen (p : Properties) : Bool := p.tag.isNone || p.tag == some "!"

def Properties.kind (p : Properties) (default : Kind) : Kind :=
  if p.isOpen then default else (p.tag.map Kind.ofAddress).getD default

def properties : Compose Properties := do
  match ← peek with
  | .anchor a => do
      let _ ← next
      match ← peek with
      | .tag h s => do
          let _ ← next
          return ⟨a, ← tagAddress h s⟩
      | _ => return ⟨a, none⟩
  | .tag h s => do
      let _ ← next
      match ← peek with
      | .anchor a => do
          let _ ← next
          return ⟨a, ← tagAddress h s⟩
      | _ => return ⟨none, ← tagAddress h s⟩
  | _ => return {}

def register (anchor : Option String) (n : Node) : Compose Node := do
  match anchor with
  | none => return n
  | some a =>
      if ((← get).anchors.lookup a).isSome then illFormed
      modify fun s => { s with anchors := (a, some n) :: s.anchors }
      return n

/-- Reads the members of a collection, in which its anchor already has a
meaning. -/
def collection (anchor : Option String) (read : Compose Node) : Compose Node := do
  match anchor with
  | none => read
  | some a =>
      if ((← get).anchors.lookup a).isSome then illFormed
      modify fun s => { s with anchors := (a, none) :: s.anchors }
      let n := (← read).unfold a
      modify fun s => { s with anchors := (a, some n) :: s.anchors }
      return n

def aliased (name : String) : Compose Node := do
  match (← get).anchors.lookup name with
  | none => illFormed
  | some none => return .inside name
  | some (some n) => return n

def emptyScalar : Node := .scalar .null ""

/-- Where a node may stand: inside brackets, in a block, or behind a key, where
also a sequence without indentation of its own may stand. -/
inductive Place where
  | flow
  | block
  | behindKey
  deriving DecidableEq

def isEntry : Token → Bool
  | .entry => true
  | _ => false

def endsBlockPart : Token → Bool
  | .key | .value | .blockEnd => true
  | _ => false

def endsBlockEntry : Token → Bool
  | .entry | .blockEnd => true
  | _ => false

def endsIndentlessEntry : Token → Bool
  | .entry | .key | .value | .blockEnd => true
  | _ => false

def endsFlowKey (close : Token → Bool) : Token → Bool
  | .value | .comma => true
  | t => close t

def endsFlowValue (close : Token → Bool) : Token → Bool
  | .comma => true
  | t => close t

def closesSequence : Token → Bool
  | .closeSequence => true
  | _ => false

def closesMapping : Token → Bool
  | .closeMapping => true
  | _ => false

mutual

def node : Nat → Place → Compose Node
  | 0, _ => illFormed
  | fuel + 1, place => do
      match ← peek with
      | .alias name => do
          let _ ← next
          aliased name
      | _ => do
          let p ← properties
          match ← peek, place with
          | .entry, .behindKey =>
              collection p.anchor do
                return .sequence (p.kind .sequence) (← indentless fuel)
          | .scalar text plain, _ => do
              let _ ← next
              let kind :=
                if (plain && p.tag.isNone) || p.tag == some "!" then Kind.ofPlain text
                else p.kind .text
              register p.anchor (.scalar kind text)
          | .openSequence, _ => do
              let _ ← next
              collection p.anchor do
                return .sequence (p.kind .sequence) (← flowItems fuel true)
          | .openMapping, _ => do
              let _ ← next
              collection p.anchor do
                return .mapping (p.kind .mapping) (← flowEntries fuel true)
          | .blockSequence, .flow => illFormed
          | .blockMapping, .flow => illFormed
          | .blockSequence, _ => do
              let _ ← next
              collection p.anchor do
                return .sequence (p.kind .sequence) (← blockItems fuel)
          | .blockMapping, _ => do
              let _ ← next
              collection p.anchor do
                return .mapping (p.kind .mapping) (← blockEntries fuel)
          | _, _ =>
              if p.anchor.isNone && p.tag.isNone then illFormed
              else register p.anchor (.scalar (p.kind .null) "")

def nodeUnless : Nat → (Token → Bool) → Place → Compose Node
  | 0, _, _ => illFormed
  | fuel + 1, ends, place => do
      if ends (← peek) then return emptyScalar else node fuel place

/-- The entries of a sequence that is indented no further than its key. -/
def indentless : Nat → Compose (List Node)
  | 0 => illFormed
  | fuel + 1 => do
      if isEntry (← peek) then
        let _ ← next
        let x ← nodeUnless fuel endsIndentlessEntry .block
        return x :: (← indentless fuel)
      else return []

def blockItems : Nat → Compose (List Node)
  | 0 => illFormed
  | fuel + 1 => do
      match ← next with
      | .entry => do
          let x ← nodeUnless fuel endsBlockEntry .block
          return x :: (← blockItems fuel)
      | .blockEnd => return []
      | _ => illFormed

def blockValue : Nat → Compose Node
  | 0 => illFormed
  | fuel + 1 => do
      match ← peek with
      | .value => do
          let _ ← next
          nodeUnless fuel endsBlockPart .behindKey
      | _ => return emptyScalar

def blockEntries : Nat → Compose (List (Node × Node))
  | 0 => illFormed
  | fuel + 1 => do
      match ← peek with
      | .key => do
          let _ ← next
          let k ← nodeUnless fuel endsBlockPart .behindKey
          let v ← blockValue fuel
          return (k, v) :: (← blockEntries fuel)
      | .blockEnd => do
          let _ ← next
          return []
      | _ => illFormed

def flowValue : Nat → (Token → Bool) → Compose Node
  | 0, _ => illFormed
  | fuel + 1, close => do
      match ← peek with
      | .value => do
          let _ ← next
          nodeUnless fuel (endsFlowValue close) .flow
      | _ => return emptyScalar

/-- The items up to the closing bracket. An item with a key is a mapping of one
entry. -/
def flowItems : Nat → Bool → Compose (List Node)
  | 0, _ => illFormed
  | fuel + 1, first => do
      if closesSequence (← peek) then
        let _ ← next
        return []
      else
        if !first then
          expect fun
            | .comma => true
            | _ => false
        match ← peek with
        | .key => do
            let _ ← next
            let k ← nodeUnless fuel (endsFlowKey closesSequence) .flow
            let v ← flowValue fuel closesSequence
            return .mapping .mapping [(k, v)] :: (← flowItems fuel false)
        | .closeSequence => do
            let _ ← next
            return []
        | _ => do
            let x ← node fuel .flow
            return x :: (← flowItems fuel false)

def flowEntries : Nat → Bool → Compose (List (Node × Node))
  | 0, _ => illFormed
  | fuel + 1, first => do
      if closesMapping (← peek) then
        let _ ← next
        return []
      else
        if !first then
          expect fun
            | .comma => true
            | _ => false
        match ← peek with
        | .key => do
            let _ ← next
            let k ← nodeUnless fuel (endsFlowKey closesMapping) .flow
            let v ← flowValue fuel closesMapping
            return (k, v) :: (← flowEntries fuel false)
        | .closeMapping => do
            let _ ← next
            return []
        | _ => do
            let k ← node fuel .flow
            return (k, emptyScalar) :: (← flowEntries fuel false)

end

/-! ## Documents -/

def standardHandles : List (String × String) :=
  [("!", "!"), ("!!", "tag:yaml.org,2002:")]

def directives : Nat → Bool → List (String × String) → Compose (List (String × String))
  | 0, _, _ => illFormed
  | fuel + 1, versioned, handles => do
      match ← peek with
      | .version major _ => do
          let _ ← next
          if versioned || major != 1 then illFormed
          directives fuel true handles
      | .tagHandle handle start => do
          let _ ← next
          if (handles.lookup handle).isSome then illFormed
          directives fuel versioned ((handle, start) :: handles)
      | .otherDirective => do
          let _ ← next
          directives fuel versioned handles
      | _ => return handles

def isDocumentEnd : Token → Bool
  | .documentEnd => true
  | _ => false

def endsDocument : Token → Bool
  | .version .. | .tagHandle .. | .otherDirective => true
  | .documentStart | .documentEnd | .streamEnd => true
  | _ => false

def skipDocumentEnds : Nat → Compose Unit
  | 0 => illFormed
  | fuel + 1 => do
      if isDocumentEnd (← peek) then
        let _ ← next
        skipDocumentEnds fuel

def document (fuel : Nat) : Compose (Option Node) := do
  let first ← peek
  match first with
  | .streamEnd => return none
  | _ => pure ()
  let root ←
    if endsDocument first && !isDocumentEnd first then do
      let handles ← directives fuel false []
      modify fun s => { s with handles := handles ++ standardHandles }
      expect fun
        | .documentStart => true
        | _ => false
      if endsDocument (← peek) then pure emptyScalar else node fuel .block
    else do
      modify fun s => { s with handles := standardHandles }
      node fuel .block
  skipDocumentEnds fuel
  match ← peek with
  | .streamEnd => return some root
  | _ => illFormed

end Compose

def compose (tokens : List Token) : Except Flaw (Option Node) :=
  (Compose.document (3 * tokens.length + 8)).run' { tokens }

end SchemaJoins.Yaml
