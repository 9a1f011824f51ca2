import SchemaJoins.Data.Fault

/-! # Results with warnings

A computation that can stop with a fault and writes warnings on its way. What
was written before a fault stays written.
-/

namespace SchemaJoins

structure Logged (α : Type) where
  result : Except Fault α
  warnings : List String

namespace Logged

variable {α β : Type}

def pure (a : α) : Logged α := ⟨.ok a, []⟩

def bind (x : Logged α) (f : α → Logged β) : Logged β :=
  match x.result with
  | .ok a => ⟨(f a).result, x.warnings ++ (f a).warnings⟩
  | .error e => ⟨.error e, x.warnings⟩

instance : Monad Logged where
  pure := Logged.pure
  bind := Logged.bind

def fail (f : Fault) : Logged α := ⟨.error f, []⟩

def warn (message : String) : Logged Unit := ⟨.ok (), [message]⟩

def lift (x : Except Fault α) : Logged α := ⟨x, []⟩

instance : MonadLift (Except Fault) Logged where
  monadLift := lift

/-- Runs the computation and keeps a fault as a result. -/
def guarded (x : Logged α) : Logged (Except Fault α) := ⟨.ok x.result, x.warnings⟩

@[simp] theorem result_pure (a : α) : (Pure.pure a : Logged α).result = .ok a := rfl

@[simp] theorem warnings_pure (a : α) : (Pure.pure a : Logged α).warnings = [] := rfl

@[simp] theorem result_warn (m : String) : (warn m).result = .ok () := rfl

@[simp] theorem warnings_warn (m : String) : (warn m).warnings = [m] := rfl

@[simp] theorem result_lift (x : Except Fault α) : (lift x).result = x := rfl

@[simp] theorem warnings_lift (x : Except Fault α) : (lift x).warnings = [] := rfl

theorem result_bind (x : Logged α) (f : α → Logged β) :
    (x >>= f).result = x.result.bind fun a => (f a).result := by
  obtain ⟨r, w⟩ := x
  cases r <;> rfl

theorem result_bind_eq_ok {x : Logged α} {f : α → Logged β} {b : β} :
    (x >>= f).result = .ok b ↔ ∃ a, x.result = .ok a ∧ (f a).result = .ok b := by
  rw [result_bind]
  cases x.result with
  | error e => simp [Except.bind]
  | ok a => simp [Except.bind]

theorem result_bind_of_error {x : Logged α} {e : Fault} (h : x.result = .error e)
    (f : α → Logged β) : (x >>= f).result = .error e := by
  obtain ⟨r, w⟩ := x
  cases h
  rfl

theorem warnings_bind_of_ok {x : Logged α} {a : α} (h : x.result = .ok a) (f : α → Logged β) :
    (x >>= f).warnings = x.warnings ++ (f a).warnings := by
  obtain ⟨r, w⟩ := x
  cases h
  rfl

end Logged

end SchemaJoins
