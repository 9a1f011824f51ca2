import SchemaJoins.Proofs.Data.Steps
import SchemaJoins.Source.Literal

/-! # What counts as a literal

A literal is a plain constant, a signed number, or a display of literals in which
every key can be hashed. Evaluation gives the value that a literal stands for, and
a fault that says so for everything else; a part that is no literal spoils
whatever it is in, however deep it lies.
-/

namespace SchemaJoins

namespace Value

/-- Lists, maps and sets can change, so that they cannot be keys. -/
def IsCollection : Value → Prop
  | list _ | map _ | set _ => True
  | _ => False

/-- The first value is the second one, or lies in it along its tuples. -/
inductive InTuple : Value → Value → Prop where
  | self (v : Value) : InTuple v v
  | item {v w : Value} {items : List Value} : w ∈ items → InTuple v w → InTuple v (.tuple items)

def IsKey (v : Value) : Prop := ∀ w, InTuple w v → ¬ w.IsCollection

theorem isKey_tuple {items : List Value} : IsKey (.tuple items) ↔ ∀ v ∈ items, IsKey v := by
  constructor
  · intro h v hv w hw
    exact h w (.item hv hw)
  · rintro h w (_ | ⟨hv, hw⟩)
    · exact id
    · exact h _ hv w hw

theorem isKey_of_not_tuple {v : Value} (h : ∀ items, v ≠ .tuple items) :
    IsKey v ↔ ¬ v.IsCollection := by
  constructor
  · exact fun hkey => hkey v (.self v)
  · rintro hv w (_ | _)
    · exact hv
    · exact absurd rfl (h _)

mutual

theorem unhashableKind?_eq_none : (v : Value) → (v.unhashableKind? = none ↔ v.IsKey)
  | .tuple items => by
    rw [unhashableKind?, isKey_tuple, unhashableAmong?_eq_none items]
  | .null | .bool _ | .int _ | .real _ | .text _ | .list _ | .map _ | .set _ | .bytes _ | .date _
  | .moment _ => by
    refine Iff.trans ?_ (Iff.symm (isKey_of_not_tuple fun _ h => nomatch h))
    simp [unhashableKind?, IsCollection]

theorem unhashableAmong?_eq_none : (items : List Value) →
    (unhashableAmong? items = none ↔ ∀ v ∈ items, v.IsKey)
  | [] => by simp [unhashableAmong?]
  | v :: items => by
    rw [unhashableAmong?, List.forall_mem_cons, ← unhashableKind?_eq_none v,
      ← unhashableAmong?_eq_none items]
    cases unhashableKind? v <;> simp

end

theorem isHashable_iff {v : Value} : v.isHashable = true ↔ v.IsKey := by
  rw [isHashable, Option.isNone_iff_eq_none, unhashableKind?_eq_none]

end Value

namespace Source

mutual

/-- The node is a literal that stands for the value. -/
inductive Denotes : Node → Value → Prop where
  | null {line : Nat} : Denotes (.constant line .null) .null
  | bool {line : Nat} {b : Bool} : Denotes (.constant line (.bool b)) (.bool b)
  | int {line n : Nat} : Denotes (.constant line (.int n)) (.int n)
  | real {line : Nat} {x : Binary64} : Denotes (.constant line (.real x)) (.real x)
  | text {line : Nat} {s : String} : Denotes (.constant line (.text s)) (.text s)
  | signedInt {line : Nat} {negative : Bool} {operand : Node} {n : Int} :
      Denotes operand (.int n) →
      Denotes (.sign line negative operand) (.int (if negative then -n else n))
  | signedReal {line : Nat} {negative : Bool} {operand : Node} {x : Binary64} :
      Denotes operand (.real x) →
      Denotes (.sign line negative operand) (.real (if negative then x.neg else x))
  | list {line : Nat} {items : List Node} {values : List Value} :
      List.Forall₂ Denotes items values → Denotes (.list line items) (.list values)
  | tuple {line : Nat} {items : List Node} {values : List Value} :
      List.Forall₂ Denotes items values → Denotes (.tuple line items) (.tuple values)
  | map {line : Nat} {entries : List (Option Node × Node)} {pairs : List (Value × Value)} :
      List.Forall₂ DenotesEntry entries pairs →
      Denotes (.map line entries) (.map (Value.ofPairs pairs))

inductive DenotesEntry : Option Node × Node → Value × Value → Prop where
  | entry {key value : Node} {k v : Value} :
      Denotes key k → k.IsKey → Denotes value v → DenotesEntry (some key, value) (k, v)

end

def IsLiteral (n : Node) : Prop := ∃ v, Denotes n v

namespace Node

def parts : Node → List Node
  | constant .. => []
  | sign _ _ operand => [operand]
  | list _ items => items
  | tuple _ items => items
  | map _ entries => entries.flatMap fun e => e.1.toList ++ [e.2]
  | argument _ value => [value]
  | other _ _ parts => parts

inductive Within : Node → Node → Prop where
  | self (n : Node) : Within n n
  | part {m n p : Node} : m ∈ n.parts → Within p m → Within p n

variable {n : Node} {v : Value}

theorem value?_eq_some {c : Constant} (line : Nat) :
    c.value? = some v ↔ Denotes (.constant line c) v := by
  constructor
  · intro h
    cases c <;> cases h <;> constructor
  · intro h
    cases h <;> rfl

theorem signed_eq_some {negative : Bool} {operand w : Value} :
    signed negative operand = some w ↔
      (∃ n, operand = .int n ∧ w = .int (if negative then -n else n)) ∨
        ∃ x, operand = .real x ∧ w = .real (if negative then x.neg else x) := by
  cases operand <;> simp [signed, eq_comm]

theorem denotes_sign {line : Nat} {negative : Bool} {operand : Node} :
    Denotes (.sign line negative operand) v ↔
      ∃ w, Denotes operand w ∧ signed negative w = some v := by
  simp only [signed_eq_some]
  constructor
  · intro h
    cases h with
    | signedInt h => exact ⟨_, h, .inl ⟨_, rfl, rfl⟩⟩
    | signedReal h => exact ⟨_, h, .inr ⟨_, rfl, rfl⟩⟩
  · rintro ⟨_, h, ⟨n, rfl, rfl⟩ | ⟨x, rfl, rfl⟩⟩
    · exact .signedInt h
    · exact .signedReal h

theorem evaluateEntries_cons {key value : Node} {rest : List (Option Node × Node)}
    {before out : List (Value × Value)} :
    evaluateEntries before ((some key, value) :: rest) = .ok out ↔
      ∃ k v, key.evaluate = .ok k ∧ k.IsKey ∧ value.evaluate = .ok v ∧
        evaluateEntries (Value.put before k v) rest = .ok out := by
  rw [evaluateEntries, bind_eq_ok]
  constructor
  · rintro ⟨k, hk, h⟩
    split at h
    · cases h
    · rename_i hkey
      obtain ⟨v, hv, hrest⟩ := bind_eq_ok.mp h
      exact ⟨k, v, hk, Value.isHashable_iff.mp (by simpa using hkey), hv, hrest⟩
  · rintro ⟨k, v, hk, hkey, hv, hrest⟩
    refine ⟨k, hk, ?_⟩
    rw [if_neg (by simpa using Value.isHashable_iff.mpr hkey)]
    exact bind_eq_ok.mpr ⟨v, hv, hrest⟩

mutual

theorem evaluate_eq_ok : (n : Node) → {v : Value} → (n.evaluate = .ok v ↔ Denotes n v)
  | constant line c, v => by
    rw [evaluate, ← value?_eq_some line]
    cases c.value? <;> simp
  | sign line negative operand, v => by
    rw [evaluate, bind_eq_ok, denotes_sign]
    refine exists_congr fun w => and_congr (evaluate_eq_ok operand) ?_
    cases signed negative w <;> simp
  | list line items, v => by
    rw [evaluate, bind_eq_ok]
    simp only [evaluateAll_eq_ok items]
    constructor
    · rintro ⟨values, h, hv⟩
      cases hv
      exact .list h
    · intro h
      cases h with
      | list h => exact ⟨_, h, rfl⟩
  | tuple line items, v => by
    rw [evaluate, bind_eq_ok]
    simp only [evaluateAll_eq_ok items]
    constructor
    · rintro ⟨values, h, hv⟩
      cases hv
      exact .tuple h
    · intro h
      cases h with
      | tuple h => exact ⟨_, h, rfl⟩
  | map line entries, v => by
    rw [evaluate, bind_eq_ok]
    simp only [evaluateEntries_eq_ok entries]
    constructor
    · rintro ⟨_, ⟨pairs, h, rfl⟩, hv⟩
      cases hv
      exact .map h
    · intro h
      cases h with
      | map h => exact ⟨_, ⟨_, h, rfl⟩, rfl⟩
  | argument name value, v => by
    rw [evaluate]
    exact iff_of_false nofun nofun
  | other line form parts, v => by
    rw [evaluate]
    exact iff_of_false nofun nofun

theorem evaluateAll_eq_ok : (ns : List Node) → {vs : List Value} →
    (evaluateAll ns = .ok vs ↔ List.Forall₂ Denotes ns vs)
  | [], vs => by
    rw [evaluateAll, List.forall₂_nil_left_iff]
    simp [eq_comm]
  | n :: ns, vs => by
    rw [evaluateAll, bind_eq_ok, List.forall₂_cons_left_iff]
    simp only [evaluate_eq_ok n, bind_eq_ok, evaluateAll_eq_ok ns]
    constructor
    · rintro ⟨v, hv, rest, hrest, h⟩
      cases h
      exact ⟨v, rest, hv, hrest, rfl⟩
    · rintro ⟨v, rest, hv, hrest, rfl⟩
      exact ⟨v, hv, rest, hrest, rfl⟩

theorem evaluateEntries_eq_ok : (entries : List (Option Node × Node)) →
    {before out : List (Value × Value)} → (evaluateEntries before entries = .ok out ↔
      ∃ pairs, List.Forall₂ DenotesEntry entries pairs ∧
        pairs.foldl (fun es (k, v) => Value.put es k v) before = out)
  | [], before, out => by
    rw [evaluateEntries]
    simp
  | (none, value) :: rest, before, out => by
    rw [evaluateEntries]
    refine iff_of_false nofun ?_
    rintro ⟨_, _ | ⟨⟨⟩, _⟩, _⟩
  | (some key, value) :: rest, before, out => by
    rw [evaluateEntries_cons]
    simp only [evaluate_eq_ok key, evaluate_eq_ok value, evaluateEntries_eq_ok rest]
    constructor
    · rintro ⟨k, v, hk, hkey, hv, pairs, hrest, hout⟩
      exact ⟨(k, v) :: pairs, .cons (.entry hk hkey hv) hrest, hout⟩
    · rintro ⟨_, _ | ⟨⟨hk, hkey, hv⟩, hrest⟩, hout⟩
      exact ⟨_, _, hk, hkey, hv, _, hrest, hout⟩

end

section Faults

/-- A result, or a fault that says that something is no literal. -/
def IsSettled {α : Type} (x : Except Fault α) : Prop :=
  (∃ a, x = .ok a) ∨ ∃ f line, x = .error (.literal f line)

theorem IsSettled.bind {α β : Type} {x : Except Fault α} {f : α → Except Fault β}
    (hx : IsSettled x) (hf : ∀ a, IsSettled (f a)) : IsSettled (x >>= f) := by
  obtain ⟨a, rfl⟩ | ⟨fault, line, rfl⟩ := hx
  · exact hf a
  · exact .inr ⟨fault, line, rfl⟩

mutual

theorem isSettled_evaluate : (n : Node) → IsSettled n.evaluate
  | constant line c => by
    rw [evaluate]
    cases c.value? with
    | some v => exact .inl ⟨v, rfl⟩
    | none => exact .inr ⟨_, _, rfl⟩
  | sign line negative operand => by
    rw [evaluate]
    refine (isSettled_evaluate operand).bind fun w => ?_
    cases signed negative w with
    | some v => exact .inl ⟨v, rfl⟩
    | none => exact .inr ⟨_, _, rfl⟩
  | list line items => by
    rw [evaluate]
    exact (isSettled_evaluateAll items).bind fun values => .inl ⟨_, rfl⟩
  | tuple line items => by
    rw [evaluate]
    exact (isSettled_evaluateAll items).bind fun values => .inl ⟨_, rfl⟩
  | map line entries => by
    rw [evaluate]
    exact (isSettled_evaluateEntries entries []).bind fun pairs => .inl ⟨_, rfl⟩
  | argument name value => by
    rw [evaluate]
    exact .inr ⟨_, _, rfl⟩
  | other line form parts => by
    rw [evaluate]
    exact .inr ⟨_, _, rfl⟩

theorem isSettled_evaluateAll : (ns : List Node) → IsSettled (evaluateAll ns)
  | [] => .inl ⟨[], evaluateAll.eq_1⟩
  | n :: ns => by
    rw [evaluateAll]
    exact (isSettled_evaluate n).bind fun v =>
      (isSettled_evaluateAll ns).bind fun vs => .inl ⟨_, rfl⟩

theorem isSettled_evaluateEntries : (entries : List (Option Node × Node)) →
    (before : List (Value × Value)) → IsSettled (evaluateEntries before entries)
  | [], before => .inl ⟨before, evaluateEntries.eq_1 before⟩
  | (none, value) :: rest, before => by
    rw [evaluateEntries]
    exact .inr ⟨_, _, rfl⟩
  | (some key, value) :: rest, before => by
    rw [evaluateEntries]
    refine (isSettled_evaluate key).bind fun k => ?_
    split
    · exact .inr ⟨_, _, rfl⟩
    · exact (isSettled_evaluate value).bind fun v => isSettled_evaluateEntries rest _

end

end Faults

theorem evaluate_of_not_isLiteral (h : ¬ IsLiteral n) :
    ∃ f line, n.evaluate = .error (.literal f line) := by
  obtain ⟨v, hv⟩ | hfault := isSettled_evaluate n
  · exact absurd ⟨v, (evaluate_eq_ok n).mp hv⟩ h
  · exact hfault

section Parts

theorem isLiteral_of_forall₂ {items : List Node} {values : List Value} {m : Node}
    (h : List.Forall₂ Denotes items values) (hm : m ∈ items) : IsLiteral m := by
  obtain ⟨v, -, hv⟩ := exists_of_mem_left h hm
  exact ⟨v, hv⟩

theorem isLiteral_of_mem_parts {m : Node} (h : IsLiteral n) (hm : m ∈ n.parts) : IsLiteral m := by
  obtain ⟨v, h⟩ := h
  cases h with
  | null | bool | int | real | text => cases hm
  | signedInt h | signedReal h =>
    obtain rfl := List.mem_singleton.mp hm
    exact ⟨_, h⟩
  | list h | tuple h => exact isLiteral_of_forall₂ h hm
  | map h =>
    obtain ⟨e, he, hm⟩ := List.mem_flatMap.mp hm
    obtain ⟨_, -, hkey, -, hvalue⟩ := exists_of_mem_left h he
    rcases List.mem_pair.mp hm with rfl | rfl
    · exact ⟨_, hkey⟩
    · exact ⟨_, hvalue⟩

theorem isLiteral_of_within {part : Node} (hw : Within part n) (h : IsLiteral n) :
    IsLiteral part := by
  induction hw with
  | self => exact h
  | part hm _ ih => exact ih (isLiteral_of_mem_parts h hm)

end Parts

/-- A literal evaluates to the value that it stands for. Every other node, and
every node with a part at some depth that is no literal, gives a fault that says
so, and never a value. -/
theorem evaluate_literal (n : Node) :
    ((∃ v, n.evaluate = .ok v) ↔ IsLiteral n) ∧
    (∀ v, n.evaluate = .ok v ↔ Denotes n v) ∧
    ∀ part, Within part n → ¬ IsLiteral part →
      ∃ f line, n.evaluate = .error (.literal f line) := by
  refine ⟨exists_congr fun v => evaluate_eq_ok n, fun v => evaluate_eq_ok n, ?_⟩
  intro part hw hpart
  exact evaluate_of_not_isLiteral fun h => hpart (isLiteral_of_within hw h)

end Node

end Source

end SchemaJoins
