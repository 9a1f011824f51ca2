import SchemaJoins.Data.Fault
import SchemaJoins.Files.Path
import SchemaJoins.Text.LineEnd

/-! # Trees of files

The files and folders that are known. A place is named by the steps to it from
the working directory or from the root; steps upwards that leave the working
directory are kept.
-/

namespace SchemaJoins.Files

inductive Entry where
  | folder
  | file (text : String)
  deriving Repr, DecidableEq

inductive Target where
  | missing
  /-- A step leads into a file. -/
  | blocked
  /-- No file can have such a name. -/
  | unnamable
  | found (e : Entry)
  deriving Repr, DecidableEq

structure Tree where
  entries : List (List String × Entry)
  deriving Repr, DecidableEq

/-- The place over a place. The root is over itself. -/
def placeAbove (place : List String) : List String :=
  match place.getLast? with
  | none => [".."]
  | some ".." => place ++ [".."]
  | some "/" => place
  | some _ => place.dropLast

def placeBehind (place : List String) (step : String) : List String :=
  if step == ".." then placeAbove place else place ++ [step]

def basePlace (p : Path) : List String := if p.root.isEmpty then [] else ["/"]

/-- The working directory, those over it and the root are there in any case. -/
def isBasePlace (place : List String) : Bool := place.all fun s => s == ".." || s == "/"

namespace Tree

def empty : Tree := ⟨[]⟩

def entry? (t : Tree) (place : List String) : Option Entry :=
  if isBasePlace place then some .folder else t.entries.lookup place

def follow (t : Tree) (place : List String) : List String → Target × List String
  | [] =>
      match t.entry? place with
      | some e => (.found e, place)
      | none => (.missing, place)
  | s :: steps =>
      match t.entry? place with
      | some .folder => follow t (placeBehind place s) steps
      | some (.file _) => (.blocked, place)
      | none => (.missing, place)

def target (t : Tree) (p : Path) : Target :=
  if p.isNamable then (t.follow (basePlace p) p.steps).1 else .unnamable

/-- The place that a path leads to, whether something stands there or not. -/
def placeOf (t : Tree) (p : Path) : List String := (t.follow (basePlace p) p.steps).2

def exists? (t : Tree) (p : Path) : Bool :=
  match t.target p with
  | .found _ => true
  | _ => false

def isFolder (t : Tree) (p : Path) : Bool := t.target p = .found .folder

/-- The text of a file, with all line ends written as one character. -/
def read (t : Tree) (p : Path) : Except Fault String :=
  match t.target p with
  | .found (.file text) => .ok (String.ofList (Text.unifyLineEnds text.toList))
  | .found .folder => .error (.isDirectory p.text)
  | .blocked => .error (.notDirectory p.text)
  | .unnamable => .error .nullInPath
  | .missing => .error (.fileNotFound p.text)

def put (t : Tree) (place : List String) (e : Entry) : Tree :=
  if t.entries.any (·.1 == place) then
    ⟨t.entries.map fun x => if x.1 == place then (place, e) else x⟩
  else ⟨t.entries ++ [(place, e)]⟩

def makeFolder (t : Tree) (p : Path) : Except Fault Tree :=
  match t.target p with
  | .found _ => .error (.fileExists p.text)
  | .blocked => .error (.notDirectory p.text)
  | .unnamable => .error .nullInPath
  | .missing =>
      if t.isFolder p.parent then .ok (t.put (t.placeOf p) .folder)
      else .error (.fileNotFound p.text)

/-- Makes a folder and those around it that are missing, the outermost first. -/
def makeFolders (t : Tree) (root : String) : List String → List String → Except Fault Tree
  | done, [] => if t.isFolder ⟨root, done⟩ then .ok t else t.makeFolder ⟨root, done⟩
  | done, s :: steps =>
      let next := done ++ [s]
      if t.isFolder ⟨root, next⟩ then t.makeFolders root next steps
      else if t.exists? ⟨root, next⟩ && !steps.isEmpty then
        .error (.notDirectory (Path.text ⟨root, next ++ steps⟩))
      else do
        let t ← t.makeFolder ⟨root, next⟩
        t.makeFolders root next steps

def makeFolderAt (t : Tree) (p : Path) : Except Fault Tree :=
  t.makeFolders p.root [] p.steps

def write (t : Tree) (p : Path) (text : String) : Except Fault Tree :=
  match t.target p with
  | .found .folder => .error (.isDirectory p.text)
  | .blocked => .error (.notDirectory p.text)
  | .unnamable => .error .nullInPath
  | .found (.file _) => .ok (t.put (t.placeOf p) (.file text))
  | .missing =>
      if t.isFolder p.parent then .ok (t.put (t.placeOf p) (.file text))
      else .error (.fileNotFound p.text)

def save (t : Tree) (p : Path) (text : String) : Except Fault Tree := do
  (← t.makeFolderAt p.parent).write p text

def remove (t : Tree) (p : Path) : Except Fault Tree :=
  match t.target p with
  | .found (.file _) => .ok ⟨t.entries.filter (·.1 != t.placeOf p)⟩
  | .found .folder => .error (.isDirectory p.text)
  | .blocked => .error (.notDirectory p.text)
  | .unnamable => .error .nullInPath
  | .missing => .error (.fileNotFound p.text)

def ofFiles (files : List (String × Option String)) : Except Fault Tree :=
  files.foldlM (fun t (name, text) =>
    match text with
    | some s => t.save (.ofText name) s
    | none => t.makeFolderAt (.ofText name)) empty

end Tree

end SchemaJoins.Files
