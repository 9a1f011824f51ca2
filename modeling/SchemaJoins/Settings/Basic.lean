import SchemaJoins.Data.Logged
import SchemaJoins.Data.Access
import SchemaJoins.Data.Order
import SchemaJoins.Join.Kind
import SchemaJoins.Text.Lowercase

/-! # Settings

The options of an analysis. They come from a mapping of options, which may hold
the versions of several adapters, and from overrides, of which the absent ones
change nothing.
-/

namespace SchemaJoins

structure Settings where
  adapter : String := "postgres"
  adapterVersion : Option String := none
  /-- The number of steps in the search for cycles. -/
  joinDepth : Nat := 3
  joinStrategy : LoadStrategy := .optimized
  detectCycles : Value := .bool true
  includeJunctionEdges : Value := .bool false
  deriving Repr, Inhabited, BEq

namespace Settings

abbrev Options := List (String × Value)

namespace Options

def get? (options : Options) (name : String) : Option Value :=
  (List.find? (·.1 == name) options).map (·.2)

end Options

def optionNames : List String :=
  ["adapter", "adapter_version", "join_depth", "join_strategy", "detect_cycles",
    "include_junction_edges"]

/-- A search needs at least one step; truth values are no numbers. -/
def depthOf (v : Value) : Except Fault Nat :=
  match v with
  | .int n => if 1 ≤ n then .ok n.toNat else .error (.settings (.joinDepth v))
  | _ => .error (.settings (.joinDepth v))

def strategyOf (v : Value) : Except Fault LoadStrategy :=
  (LoadStrategy.ofValue v).mapError fun _ =>
    .settings (.joinStrategy v (LoadStrategy.all.map (·.name)))

def adapterOf (v : Value) : Except Fault String :=
  if v.isTrue then .ok (Text.lower v.display) else .error (.settings .emptyAdapter)

def versionOf : Value → Option String
  | .null => none
  | v => some v.display

/-- Settings from options; the options that are not given have their defaults. The
adapter and the version are turned into texts. -/
def ofOptions (options : Options) : Except Fault Settings := do
  match List.find? (fun o => !optionNames.contains o.1) options with
  | some (name, _) => .error (.unexpectedOption "AnalyzerConfig" name)
  | none =>
      let given := options.get?
      let joinDepth ← (depthOf ((given "join_depth").getD (.int 3))).mapError Fault.told
      let joinStrategy ←
        (strategyOf ((given "join_strategy").getD (.text "optimized"))).mapError Fault.told
      let adapter ← adapterOf ((given "adapter").getD (.text "postgres"))
      ((given "adapter").getD (.text "postgres")).requireWritable
      ((given "adapter_version").getD .null).requireWritable
      return {
        adapter, joinDepth, joinStrategy
        adapterVersion := versionOf ((given "adapter_version").getD .null)
        detectCycles := (given "detect_cycles").getD (.bool true)
        includeJunctionEdges := (given "include_junction_edges").getD (.bool false) }

def toOptions (s : Settings) : Options :=
  [("adapter", .text s.adapter), ("adapter_version", (s.adapterVersion.map .text).getD .null),
    ("join_depth", .int s.joinDepth), ("join_strategy", .text s.joinStrategy.name),
    ("detect_cycles", s.detectCycles), ("include_junction_edges", s.includeJunctionEdges)]

def toValue (s : Settings) : Value := .record s.toOptions

def knownOptions (entries : List (Value × Value)) : Options :=
  entries.filterMap fun (k, v) =>
    match k with
    | .text name => if optionNames.contains name then some (name, v) else none
    | _ => none

def isOption : Value → Bool
  | .text name => optionNames.contains name
  | _ => false

def unknownKeys (entries : List (Value × Value)) : Except Fault (List Value) := do
  let keys := (entries.map (·.1)).filter (!isOption ·)
  Value.requireOrdered keys
  return keys.mergeSort Value.le

def declaredVersion (adapters : List (Value × Value)) (adapter : String) : Except Fault Value := do
  match Value.find? adapters (.text adapter) with
  | none => return .null
  | some entry => if entry.isTrue then entry.getOrNull "version" else return .null

def settingsMap (v : Value) (fault : SettingsFault) : Except Fault (List (Value × Value)) :=
  match v with
  | .map es => .ok es
  | _ => .error (.settings fault)

/-- The options of a settings file: those under `defaults`, or all of it. An
open version is the one that the file declares for the adapter. -/
def optionsOfFile (entries defaults : List (Value × Value)) : Except Fault Options := do
  let options := knownOptions defaults
  let adapters := (Value.find? entries (.text "adapters")).getD .null
  let adapters ← if adapters.isTrue then settingsMap adapters .adaptersNotMapping else pure []
  ((options.get? "adapter").getD (.text "postgres")).requireWritable
  let adapter := Text.lower ((options.get? "adapter").getD (.text "postgres")).display
  match (options.get? "adapter_version").getD .null with
  | .null =>
      match ← declaredVersion adapters adapter with
      | .null => return options
      | version =>
          return options.filter (·.1 != "adapter_version") ++ [("adapter_version", version)]
  | _ => return options

def ofFile (v : Value) : Logged Settings := do
  let entries ← settingsMap v (.notMapping v.shortKind)
  let below := Value.find? entries (.text "defaults")
  let defaults ← settingsMap (below.getD v) .defaultsNotMapping
  let unknown ← unknownKeys defaults
  if !unknown.isEmpty && below.isSome then
    Logged.warn ("Ignoring unknown configuration keys: " ++ (← Value.joinTexts ", " unknown))
  ofOptions (← optionsOfFile entries defaults)

def givenOverrides (overrides : Options) : Options := overrides.filter fun o => !(o.2 matches .null)

def merge (s : Settings) (overrides : Options) : Except Fault Settings :=
  match givenOverrides overrides with
  | [] => .ok s
  | given => ofOptions (given ++ s.toOptions.filter fun o => !(given.any (·.1 == o.1)))

end Settings

end SchemaJoins
