import SchemaJoins.Console.Pictures
import SchemaJoins.Console.Style
import SchemaJoins.Data.Fault

/-! # Markup

Text for the console holds style tags in square brackets, which do not show, and
names of pictures between colons. A backslash before a tag makes it text. A
closing tag ends the style of the same normal form that was opened last, or
without a name the last style.
-/

namespace SchemaJoins.Console

def startsTag (c : Char) : Bool :=
  (decide ('a' ≤ c) && decide (c ≤ 'z')) || c == '#' || c == '/' || c == '@'

def tag? : List Char → Option (List Char × List Char)
  | '[' :: c :: cs =>
      if startsTag c then
        let inner := cs.takeWhile fun c => c != ']' && c != '['
        match cs.drop inner.length with
        | ']' :: rest => some (c :: inner, rest)
        | _ => none
      else none
  | _ => none

inductive Piece where
  | text (cs : List Char)
  | tag (content : List Char) (position : Nat)
  deriving Repr

/-- Divides a text into pieces. Of the backslashes before a tag each pair stands
for one, and one that is left makes the tag a text. -/
def pieces : Nat → Nat → List Char → List Char → List Piece
  | 0, _, before, cs => [.text (before.reverse ++ cs)]
  | _, _, before, [] => [.text before.reverse]
  | fuel + 1, position, before, c :: cs =>
      let slashes := ((c :: cs).takeWhile (· == '\\')).length
      match tag? ((c :: cs).drop slashes) with
      | none => pieces fuel (position + 1) (c :: before) cs
      | some (content, rest) =>
          let half := List.replicate (slashes / 2) '\\'
          let next := position + slashes + content.length + 2
          let more := pieces fuel next [] rest
          if slashes % 2 = 0 then
            .text before.reverse :: .text half :: .tag content (position + slashes) :: more
          else .text before.reverse :: .text half :: .text ('[' :: content ++ [']']) :: more

def piecesOf (cs : List Char) : List Piece := pieces (cs.length + 1) 0 [] cs

def escapeTags : Nat → List Char → List Char
  | 0, cs => cs
  | _, [] => []
  | fuel + 1, c :: cs =>
      let slashes := ((c :: cs).takeWhile (· == '\\')).length
      match tag? ((c :: cs).drop slashes) with
      | none => c :: escapeTags fuel cs
      | some (content, rest) =>
          List.replicate (2 * slashes + 1) '\\' ++ '[' :: content ++ ']' :: escapeTags fuel rest

/-- A text that shows as it is. A single backslash at the end is doubled. -/
def escape (s : String) : String :=
  let cs := escapeTags (s.length + 1) s.toList
  match cs.reverse with
  | '\\' :: '\\' :: _ => String.ofList cs
  | '\\' :: _ => String.ofList (cs ++ ['\\'])
  | _ => String.ofList cs

/-! ## Pictures -/

def pictureVariant (name : List Char) : List Char × List Char :=
  let cut (ending : String) : Option (List Char) :=
    if ending.toList.isSuffixOf name then some (name.take (name.length - ending.length)) else none
  match cut "-emoji", cut "-text" with
  | some base, _ => (base, ['\uFE0F'])
  | none, some base => (base, ['\uFE0E'])
  | none, none => (name, [])

/-- Puts pictures in the place of their names between colons. A name without a
picture stays, and its second colon does not start a name. -/
def showPictures : Nat → List Char → List Char
  | 0, cs => cs
  | _, [] => []
  | fuel + 1, ':' :: cs =>
      let name := cs.takeWhile fun c => c != ':' && !Text.isBlank c
      match cs.drop name.length with
      | ':' :: rest =>
          let (base, variant) := pictureVariant name
          match picture? (Text.lower (String.ofList base)) with
          | some p => p.toList ++ variant ++ showPictures fuel rest
          | none => ':' :: name ++ ':' :: showPictures fuel rest
      | _ => ':' :: showPictures fuel cs
  | fuel + 1, c :: cs => c :: showPictures fuel cs

def isDropped (c : Char) : Bool :=
  c == '\x07' || c == '\x08' || c == '\x0b' || c == '\x0c' || c == '\r'

def unescapeBrackets : List Char → List Char
  | '\\' :: '[' :: cs => '[' :: unescapeBrackets cs
  | c :: cs => c :: unescapeBrackets cs
  | [] => []

def shown (cs : List Char) : List Char :=
  let cs := unescapeBrackets cs
  (showPictures (cs.length + 1) cs).filter (!isDropped ·)

/-! ## Rendering -/

def tagName (content : List Char) : List Char := content.takeWhile (· != '=')

def closeStyle? (name : String) : List String → Option (List String)
  | [] => none
  | s :: rest => if s = name then some rest else (closeStyle? name rest).map (s :: ·)

def applyTag (content : List Char) (position : Nat) (styles : List String) :
    Except Fault (List String) :=
  match tagName content with
  | '/' :: name =>
      let trimmed := Text.trim name
      if trimmed.isEmpty then
        match styles with
        | _ :: rest => .ok rest
        | [] => .error (.nothingToClose "[/]" position)
      else
        match closeStyle? (Style.normalForm (String.ofList trimmed)) styles with
        | some rest => .ok rest
        | none => .error (.unmatchedTag (String.ofList (content.drop 1)) position)
  | name => .ok (Style.normalForm (String.ofList name) :: styles)

def renderPieces (styles : List String) : List Piece → Except Fault (List Char)
  | [] => .ok []
  | .text cs :: rest => do return shown cs ++ (← renderPieces styles rest)
  | .tag content position :: rest => do
      renderPieces (← applyTag content position styles) rest

def render (s : String) : Except Fault (List Char) := renderPieces [] (piecesOf s.toList)

end SchemaJoins.Console
