import SchemaJoins.Yaml.Token

/-! # Anchors, tags and directives

What can stand before a node or before a document.
-/

namespace SchemaJoins.Yaml

def anchorName (c : Cursor) : Except Flaw (String × Cursor) :=
  let (name, c) := c.takeWhile isNameCharacter
  if name.isEmpty then .error .illFormed
  else if atEndOr (fun x => isGap x || "?:,]\x7d%@\x60".toList.contains x) c.rest then
    .ok (String.ofList name, c)
  else .error .illFormed

def percentBytes : Nat → Cursor → Except Flaw (List UInt8 × Cursor)
  | 0, c => .ok ([], c)
  | fuel + 1, c =>
      if startsWith (· == '%') c.rest then
        match hexNumber? 2 c.advance.rest with
        | none => .error .illFormed
        | some (n, _) => do
            let (bs, c) ← percentBytes fuel (c.skip 3)
            return (n.toUInt8 :: bs, c)
      else .ok ([], c)

def ofBytes? (bs : List UInt8) : Option String := String.fromUTF8? ⟨bs.toArray⟩

def address : Nat → Cursor → Except Flaw (String × Cursor)
  | 0, _ => .error .illFormed
  | fuel + 1, c => do
      let (run, c) := c.takeWhile fun x => isAddressCharacter x && x != '%'
      if startsWith (· == '%') c.rest then
        let (bs, c) ← percentBytes c.rest.length c
        let some text := ofBytes? bs | .error .illFormed
        let (more, c) ← match c.rest with
          | x :: _ => if isAddressCharacter x then address fuel c else pure ("", c)
          | [] => pure ("", c)
        return (String.ofList run ++ text ++ more, c)
      else if run.isEmpty then .error .illFormed
      else return (String.ofList run, c)

def addressAt (c : Cursor) : Except Flaw (String × Cursor) := address (c.rest.length + 1) c

/-- A handle: one exclamation mark, or two with a name between. -/
def tagHandle (c : Cursor) : Except Flaw (String × Cursor) :=
  match c.rest with
  | '!' :: rest =>
      if startsWith (· == ' ') rest then .ok ("!", c.advance)
      else
        let (name, c) := c.advance.takeWhile isNameCharacter
        if startsWith (· == '!') c.rest then
          .ok ("!" ++ String.ofList name ++ "!", c.advance)
        else .error .illFormed
  | _ => .error .illFormed

def hasHandle (cs : List Char) : Bool :=
  (cs.takeWhile fun x => !isSpaceOrBreak x).contains '!'

def tagToken (c : Cursor) : Except Flaw (Token × Cursor) := do
  let rest := c.advance.rest
  let (token, c) ←
    if startsWith (· == '<') rest then do
      let (text, c) ← addressAt (c.skip 2)
      if startsWith (· == '>') c.rest then pure (Token.tag none text, c.advance)
      else .error .illFormed
    else if atEndOr isGap rest then pure (Token.tag none "!", c.advance)
    else do
      let (handle, c) ← if hasHandle rest then tagHandle c else pure ("!", c.advance)
      let (text, c) ← addressAt c
      pure (Token.tag (some handle) text, c)
  if atEndOr isSpaceOrBreak c.rest then return (token, c) else .error .illFormed

def wholeNumber (c : Cursor) : Except Flaw (Nat × Cursor) :=
  let (ds, c) := c.takeWhile Char.isDigit
  if ds.isEmpty then .error .illFormed
  else .ok (ds.foldl (fun n d => n * 10 + (d.toNat - '0'.toNat)) 0, c)

def versionToken (c : Cursor) : Except Flaw (Token × Cursor) := do
  let (major, c) ← wholeNumber (c.skipWhile (· == ' '))
  if !startsWith (· == '.') c.rest then .error .illFormed
  let (minor, c) ← wholeNumber c.advance
  if atEndOr isSpaceOrBreak c.rest then return (.version major minor, c) else .error .illFormed

def handleToken (c : Cursor) : Except Flaw (Token × Cursor) := do
  let (handle, c) ← tagHandle (c.skipWhile (· == ' '))
  if !startsWith (· == ' ') c.rest then .error .illFormed
  let (text, c) ← addressAt (c.skipWhile (· == ' '))
  if atEndOr isSpaceOrBreak c.rest then return (.tagHandle handle text, c) else .error .illFormed

def directiveToken (c : Cursor) : Except Flaw (Token × Cursor) := do
  let (name, c) := c.takeWhile isNameCharacter
  if name.isEmpty || !atEndOr isSpaceOrBreak c.rest then .error .illFormed
  let (token, c) ← match String.ofList name with
    | "YAML" => versionToken c
    | "TAG" => handleToken c
    | _ => pure (.otherDirective, c.skipWhile (!isBreak ·))
  match c.endLine? with
  | some c => return (token, c)
  | none => .error .illFormed

end SchemaJoins.Yaml
