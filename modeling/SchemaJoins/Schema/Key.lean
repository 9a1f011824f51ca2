import SchemaJoins.Data.Access

/-! # Keys

A key is a list of column names. Exports write a single column as a text and a
composite key as a list.
-/

namespace SchemaJoins.Schema

/-- Reads a key; items that are no texts are named by their display. -/
def keyOf : Value → Except Fault (List String)
  | .null => .ok []
  | .text s => .ok [s]
  | v => do return (← v.items).map Value.display

def keyValue (key : List String) : Value := Value.texts key

@[simp] theorem keyOf_null : keyOf .null = .ok [] := rfl

@[simp] theorem keyOf_text (s : String) : keyOf (.text s) = .ok [s] := rfl

theorem display_text (s : String) : (Value.text s).display = s := rfl

theorem keyOf_keyValue (key : List String) : keyOf (keyValue key) = .ok key := by
  have h : (key.map Value.text).map Value.display = key := by
    induction key with
    | nil => rfl
    | cons s key ih => rw [List.map_cons, List.map_cons, ih, display_text]
  exact congrArg Except.ok h

end SchemaJoins.Schema
