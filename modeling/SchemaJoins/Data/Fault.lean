import SchemaJoins.Data.Display

/-! # Faults

Everything that can stop a computation of this library, by cause, and the words
for each. Advisory findings are no faults; they are reported in `Logged`.
-/

namespace SchemaJoins

inductive SettingsFault where
  | notMapping (kind : String)
  | defaultsNotMapping
  | adaptersNotMapping
  | joinDepth (given : Value)
  | joinStrategy (given : Value) (allowed : List String)
  | emptyAdapter
  | fileMissing (path : String)
  | fileExists (path : String)
  | invalidDocument (path : String)
  deriving Repr

def SettingsFault.message : SettingsFault → String
  | notMapping kind => "Configuration must be a mapping, got " ++ kind
  | defaultsNotMapping => "'defaults' must be a mapping"
  | adaptersNotMapping => "'adapters' must be a mapping"
  | joinDepth given => "join_depth must be a positive integer, got " ++ given.literal
  | joinStrategy given allowed =>
      "join_strategy must be one of " ++ ", ".intercalate allowed ++ ", got " ++ given.literal
  | emptyAdapter => "adapter must not be empty"
  | fileMissing path => "Configuration file not found: " ++ path
  | fileExists path => path ++ " already exists (use overwrite to replace it)"
  | invalidDocument path => "Invalid YAML in " ++ path

inductive ExportFault where
  | notMapping
  | noEntities
  | entitiesKind (kind : String)
  | entryNotMapping (name : String)
  | itemNotMapping (position : Nat)
  | missingKey (entity key : String)
  | malformed (entity reason : String)
  | fileMissing (path : String)
  | invalidDocument (path : String)
  deriving Repr

def ExportFault.message : ExportFault → String
  | notMapping => "Schema export must be a mapping"
  | noEntities => "Schema export has no 'entities' key"
  | entitiesKind kind => "'entities' must be a list or mapping, got " ++ kind
  | entryNotMapping name => "Entity '" ++ name ++ "' must be a mapping"
  | itemNotMapping position => "Entity #" ++ toString position ++ " must be a mapping"
  | missingKey entity key => "Entity " ++ entity ++ " is missing key " ++ key
  | malformed entity reason => "Entity " ++ entity ++ " is malformed: " ++ reason
  | fileMissing path => "Schema file not found: " ++ path
  | invalidDocument path => "Invalid YAML in " ++ path

inductive LiteralFault where
  | constant (shown : String)
  | sign
  | unpacking
  | key (given : Value)
  | construct (description : String)
  deriving Repr

def LiteralFault.message : LiteralFault → String
  | constant shown => "Unsupported constant " ++ shown
  | sign => "Sign applied to a non-numeric literal"
  | unpacking => "Dict unpacking (**) is not a literal"
  | key given => "Unhashable dict key " ++ given.literal
  | construct description => "Non-literal " ++ description ++ " is not allowed"

inductive RelationshipFault where
  | noJunction (name : String)
  | noJunctionKeys (name : String)
  | compositeKeys (name : String) (owner related : List String)
  | foreignTarget (name source target : String)
  | declaredAs (name cardinality : String)
  deriving Repr

def RelationshipFault.message : RelationshipFault → String
  | noJunction name => "Many-to-many relationship '" ++ name ++ "' requires a junction entity"
  | noJunctionKeys name =>
      "Many-to-many relationship '" ++ name ++ "' requires both junction keys"
  | compositeKeys name owner related =>
      "Many-to-many relationship '" ++ name ++
        "' requires single-column owner and related keys, got (" ++ ", ".intercalate owner ++
        ") and (" ++ ", ".intercalate related ++ ")"
  | foreignTarget name source target =>
      "Self reference '" ++ name ++ "' must point at its own entity (" ++ source ++ " -> "
        ++ target ++ ")"
  | declaredAs name cardinality =>
      "Self reference '" ++ name ++ "' cannot be declared as " ++ cardinality

inductive Fault where
  /-- A map has no such key. -/
  | missingKey (key : Value)
  | unknownEntity (name : String) (known : List String)
  /-- A value of this kind has no such member. -/
  | noAttribute (kind member : String)
  | notIterable (kind : String)
  | notSubscriptable (kind : String)
  /-- A value of this kind is not looked up by text. -/
  | textIndex (kind : String)
  | outOfRange (kind : String)
  /-- Bytes are asked for an ending that is a text. -/
  | textEnding
  | unhashable (kind : String)
  | notMember (given : Value) (enumeration : String)
  | incomparable (left right : String)
  | notText (position : Nat) (kind : String)
  | notUnpackable (kind : String)
  | tooFewItems (wanted got : Nat)
  | tooManyItems (wanted : Nat)
  | unexpectedOption (record option : String)
  | missingOptions (record : String) (options : List String)
  | integerTooLong (digits : Nat)
  /-- An integer has more digits than are written. -/
  | integerUnwritable
  | notDate (reason : String)
  | notInteger (text : String) (base : Nat)
  | notReal (text : String)
  /-- No character has this number. -/
  | noCharacter (code : Nat)
  | unparseableVersion (version : String)
  | invalidRequirement (requirement : String)
  | negativeDepth (depth : Int)
  | duplicateParameters (path : String) (names : List String)
  | unknownPlaceholders (path : String) (names : List String)
  | relationship (f : RelationshipFault)
  | schema (f : ExportFault)
  | settings (f : SettingsFault)
  | literal (f : LiteralFault) (line : Nat)
  /-- Source text that is not well formed. -/
  | illFormedSource
  | nullCharacter
  | isDirectory (path : String)
  | notDirectory (path : String)
  | fileNotFound (path : String)
  | fileExists (path : String)
  | nullInPath
  | unmatchedTag (tag : String) (position : Nat)
  | nothingToClose (tag : String) (position : Nat)
  deriving Repr

namespace Fault

def message : Fault → String
  | missingKey key => key.literal
  | unknownEntity name known =>
      "Entity '" ++ name ++ "' not found. Known entities: " ++
        (if known.isEmpty then "none" else ", ".intercalate known)
  | noAttribute kind member =>
      "'" ++ kind ++ "' object has no attribute '" ++ member ++ "'"
  | notIterable kind => "'" ++ kind ++ "' object is not iterable"
  | notSubscriptable kind => "'" ++ kind ++ "' object is not subscriptable"
  | textIndex "str" => "string indices must be integers, not 'str'"
  | textIndex "bytes" => "byte indices must be integers or slices, not str"
  | textIndex kind => kind ++ " indices must be integers or slices, not str"
  | outOfRange "str" => "string index out of range"
  | outOfRange "bytes" => "index out of range"
  | outOfRange kind => kind ++ " index out of range"
  | textEnding => "endswith first arg must be bytes or a tuple of bytes, not str"
  | unhashable kind => "unhashable type: '" ++ kind ++ "'"
  | notMember given enumeration => given.literal ++ " is not a valid " ++ enumeration
  | incomparable "datetime.datetime" "datetime.datetime" =>
      "can't compare offset-naive and offset-aware datetimes"
  | incomparable "datetime.date" "datetime.datetime"
  | incomparable "datetime.datetime" "datetime.date" =>
      "can't compare datetime.datetime to datetime.date"
  | incomparable left right =>
      "'<' not supported between instances of '" ++ left ++ "' and '" ++ right ++ "'"
  | notText position kind =>
      "sequence item " ++ toString position ++ ": expected str instance, " ++ kind ++ " found"
  | notUnpackable kind => "cannot unpack non-iterable " ++ kind ++ " object"
  | tooFewItems wanted got =>
      "not enough values to unpack (expected " ++ toString wanted ++ ", got " ++ toString got ++ ")"
  | tooManyItems wanted => "too many values to unpack (expected " ++ toString wanted ++ ")"
  | unexpectedOption record option =>
      record ++ ".__init__() got an unexpected keyword argument '" ++ option ++ "'"
  | missingOptions record [option] =>
      record ++ ".__init__() missing 1 required positional argument: '" ++ option ++ "'"
  | missingOptions record options =>
      record ++ ".__init__() missing " ++ toString options.length ++
        " required positional arguments: " ++
        " and ".intercalate (options.map fun o => "'" ++ o ++ "'")
  | integerTooLong digits =>
      "Exceeds the limit (4300 digits) for integer string conversion: value has " ++
        toString digits ++ " digits; use sys.set_int_max_str_digits() to increase the limit"
  | integerUnwritable =>
      "Exceeds the limit (4300 digits) for integer string conversion; " ++
        "use sys.set_int_max_str_digits() to increase the limit"
  | notDate reason => reason
  | notInteger text base =>
      "invalid literal for int() with base " ++ toString base ++ ": " ++ quoted text
  | notReal text => "could not convert string to float: " ++ quoted text
  | noCharacter code =>
      if code < Nat.pow 2 31 then "chr() arg not in range(0x110000)"
      else "Python int too large to convert to C int"
  | unparseableVersion version => "Unparseable version: " ++ quoted version
  | invalidRequirement requirement => "Invalid version requirement: " ++ quoted requirement
  | negativeDepth depth => "max_depth must be >= 0, got " ++ toString depth
  | duplicateParameters path names =>
      "Join '" ++ path ++ "' defines duplicate parameters: " ++ ", ".intercalate names
  | unknownPlaceholders path names =>
      "Join '" ++ path ++ "' join_condition references unknown parameters: " ++
        ", ".intercalate names
  | relationship f => f.message
  | schema f => f.message
  | settings f => f.message
  | literal f line => f.message ++ " (line " ++ toString line ++ ")"
  | illFormedSource => "invalid syntax"
  | nullCharacter => "source code string cannot contain null bytes"
  | isDirectory path => "[Errno 21] Is a directory: " ++ quoted path
  | notDirectory path => "[Errno 20] Not a directory: " ++ quoted path
  | fileNotFound path => "[Errno 2] No such file or directory: " ++ quoted path
  | fileExists path => "[Errno 17] File exists: " ++ quoted path
  | nullInPath => "embedded null byte"
  | unmatchedTag tag position =>
      "closing tag '[/" ++ tag ++ "]' at position " ++ toString position ++
        " doesn't match any open tag"
  | nothingToClose tag position =>
      "closing tag '" ++ tag ++ "' at position " ++ toString position ++ " has nothing to close"

/-- The fault is about a value: it lacks what is asked of it, or it is not of the
kind that is asked for. The other faults are about files, source text and markup. -/
def isAboutValue : Fault → Bool
  | illFormedSource | isDirectory _ | notDirectory _ | fileNotFound _ | fileExists _ => false
  | unmatchedTag .. | nothingToClose .. => false
  | noCharacter code => code < Nat.pow 2 31
  | _ => true

def shown? : Fault → Option Value
  | notMember given _ => some given
  | settings (.joinDepth given) => some given
  | settings (.joinStrategy given _) => some given
  | literal (.key given) _ => some given
  | _ => none

/-- What is told instead of a fault. Words that show an integer of too many digits
cannot be written, which is a fault of its own. -/
def told (f : Fault) : Fault := if f.shown?.all Value.isWritable then f else integerUnwritable

end Fault

end SchemaJoins
