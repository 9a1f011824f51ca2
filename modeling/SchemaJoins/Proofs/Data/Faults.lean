import SchemaJoins.Data.Access
import SchemaJoins.Proofs.Data.Steps

/-! # What stops a computation

A computation in steps stops with a fault exactly if one of its steps does and the
steps before it have results. A reader of values stops with faults about values only.
-/

namespace SchemaJoins

variable {α β : Type} {P : Fault → Prop} {x : Except Fault α} {f : Fault}

def StopsWith (P : Fault → Prop) (x : Except Fault α) : Prop := ∃ f, x = .error f ∧ P f

@[simp] theorem not_stopsWith_ok (a : α) : ¬ StopsWith P (.ok a : Except Fault α) := by
  rintro ⟨_, ⟨⟩, _⟩

@[simp] theorem not_stopsWith_pure (a : α) : ¬ StopsWith P (pure a : Except Fault α) :=
  not_stopsWith_ok a

@[simp] theorem stopsWith_error : StopsWith P (.error f : Except Fault α) ↔ P f := by
  constructor
  · rintro ⟨_, ⟨⟩, h⟩
    exact h
  · exact fun h => ⟨f, rfl, h⟩

theorem stopsWith_bind {next : α → Except Fault β} :
    StopsWith P (x >>= next) ↔ StopsWith P x ∨ ∃ a, x = .ok a ∧ StopsWith P (next a) := by
  cases x with
  | error f =>
    have hstop : (.error f : Except Fault α) >>= next = .error f := rfl
    simp [hstop]
  | ok a =>
    have hnext : .ok a >>= next = next a := rfl
    simp [hnext]

@[simp] theorem stopsWith_map {g : α → β} : StopsWith P (g <$> x) ↔ StopsWith P x := by
  rw [map_eq_pure_bind, stopsWith_bind]
  simp

@[simp] theorem stopsWith_mapError {g : Fault → Fault} :
    StopsWith P (x.mapError g) ↔ StopsWith (fun f => P (g f)) x := by
  cases x <;> simp [Except.mapError]

theorem exists_ok_iff : (∃ a, x = .ok a) ↔ ¬ StopsWith (fun _ => True) x := by
  cases x <;> simp

theorem not_stopsWith_bind {next : α → Except Fault β} (hx : ¬ StopsWith P x)
    (hnext : ∀ a, x = .ok a → ¬ StopsWith P (next a)) : ¬ StopsWith P (x >>= next) := by
  rw [stopsWith_bind]
  rintro (h | ⟨a, ha, h⟩)
  · exact hx h
  · exact hnext a ha h

theorem stopsWith_bind_of {next : α → Except Fault β} {R Q : Prop} (hok : (∃ a, x = .ok a) ↔ R)
    (hnext : ∀ a, x = .ok a → (StopsWith P (next a) ↔ Q)) :
    StopsWith P (x >>= next) ↔ StopsWith P x ∨ R ∧ Q := by
  rw [stopsWith_bind, ← hok]
  refine or_congr_right ⟨?_, ?_⟩
  · rintro ⟨a, ha, h⟩
    exact ⟨⟨a, ha⟩, (hnext a ha).mp h⟩
  · rintro ⟨⟨a, ha⟩, h⟩
    exact ⟨a, ha, (hnext a ha).mpr h⟩

theorem exists_bind_of {next : α → Except Fault β} {R Q : Prop} (hok : (∃ a, x = .ok a) ↔ R)
    (hnext : ∀ a, x = .ok a → ((∃ b, next a = .ok b) ↔ Q)) :
    (∃ b, x >>= next = .ok b) ↔ R ∧ Q := by
  rw [← hok]
  constructor
  · rintro ⟨b, h⟩
    obtain ⟨a, ha, hb⟩ := bind_eq_ok.mp h
    exact ⟨⟨a, ha⟩, (hnext a ha).mp ⟨b, hb⟩⟩
  · rintro ⟨⟨a, ha⟩, h⟩
    obtain ⟨b, hb⟩ := (hnext a ha).mpr h
    exact ⟨b, bind_eq_ok.mpr ⟨a, ha, hb⟩⟩

/-- The first that is refused is the head, or the head passes and it is the first of
the others. -/
theorem exists_first_cons {Passes Refused : α → Prop} {a : α} {xs : List α} :
    (∃ before b after, a :: xs = before ++ b :: after ∧ (∀ c ∈ before, Passes c) ∧ Refused b) ↔
      Refused a ∨ Passes a ∧ ∃ before b after, xs = before ++ b :: after ∧
        (∀ c ∈ before, Passes c) ∧ Refused b := by
  constructor
  · rintro ⟨_ | ⟨c, before⟩, b, after, hsplit, hbefore, hb⟩
    · obtain ⟨rfl, rfl⟩ := List.cons.inj hsplit
      exact .inl hb
    · obtain ⟨rfl, rfl⟩ := List.cons.inj hsplit
      obtain ⟨hc, hbefore⟩ := List.forall_mem_cons.mp hbefore
      exact .inr ⟨hc, before, b, after, rfl, hbefore, hb⟩
  · rintro (ha | ⟨ha, before, b, after, rfl, hbefore, hb⟩)
    · exact ⟨[], a, xs, rfl, List.forall_mem_nil _, ha⟩
    · exact ⟨a :: before, b, after, rfl, List.forall_mem_cons.mpr ⟨ha, hbefore⟩, hb⟩

theorem stopsWith_mapM {step : α → Except Fault β} {xs : List α} :
    StopsWith P (xs.mapM step) ↔ ∃ before a after, xs = before ++ a :: after ∧
      (∀ b ∈ before, ∃ c, step b = .ok c) ∧ StopsWith P (step a) := by
  induction xs with
  | nil => simp
  | cons a xs ih =>
    rw [exists_first_cons, ← ih, List.mapM_cons]
    refine stopsWith_bind_of Iff.rfl fun b _ => ?_
    rw [stopsWith_bind]
    exact or_iff_left fun ⟨_, _, h⟩ => not_stopsWith_pure _ h

theorem not_stopsWith_mapM {step : α → Except Fault β} {xs : List α}
    (h : ∀ a ∈ xs, ¬ StopsWith P (step a)) : ¬ StopsWith P (xs.mapM step) := by
  rw [stopsWith_mapM]
  rintro ⟨before, a, after, rfl, -, ha⟩
  exact h a (by simp) ha

theorem stopsWith_mapM_of_forall {step : α → Except Fault β} {xs : List α}
    (hP : ∀ a f, step a = .error f → P f) :
    StopsWith P (xs.mapM step) ↔ ∃ a ∈ xs, StopsWith P (step a) := by
  induction xs with
  | nil => simp
  | cons a xs ih =>
    rw [List.mapM_cons, stopsWith_bind, List.exists_mem_cons_iff]
    cases ha : step a with
    | error f => simp [hP a f ha]
    | ok b => simp [ih]

namespace Value

theorem stopsWith_requireWritable (hP : P .integerUnwritable) {v : Value} :
    StopsWith P v.requireWritable ↔ ¬ v.isWritable = true := by
  unfold requireWritable
  split <;> simp_all

theorem exists_requireWritable {v : Value} :
    (∃ u, v.requireWritable = .ok u) ↔ v.isWritable = true := by
  unfold requireWritable
  split <;> simp_all

def textAt (item : Value × Nat) : Except Fault String :=
  match item.1 with
  | text s => .ok s
  | w => .error (.notText item.2 w.kind)

theorem joinTexts_eq (separator : String) (items : List Value) :
    joinTexts separator items = (items.zipIdx.mapM textAt >>= fun parts =>
      pure (separator.intercalate parts)) := rfl

theorem stopsWith_joinTexts (hP : ∀ position kind, P (.notText position kind))
    {separator : String} {items : List Value} :
    StopsWith P (joinTexts separator items) ↔ ∃ v ∈ items, ∀ s, v ≠ .text s := by
  have hstep (v : Value) (i : Nat) : StopsWith P (textAt (v, i)) ↔ ∀ s, v ≠ .text s := by
    cases v with
    | text s => simp [textAt]
    | _ => simp [textAt, hP]
  have hfault (item : Value × Nat) (f : Fault) (h : textAt item = .error f) : P f := by
    unfold textAt at h
    split at h
    · cases h
    · cases h
      exact hP _ _
  rw [joinTexts_eq, stopsWith_bind, stopsWith_mapM_of_forall hfault]
  simp only [not_stopsWith_pure, and_false, exists_false, or_false]
  constructor
  · rintro ⟨⟨v, i⟩, hmem, hv⟩
    exact ⟨v, List.fst_mem_of_mem_zipIdx hmem, (hstep v i).mp hv⟩
  · rintro ⟨v, hv, hne⟩
    obtain ⟨i, hi⟩ := List.mem_iff_getElem?.mp hv
    exact ⟨(v, i), List.mem_zipIdx_iff_getElem?.mpr hi, (hstep v i).mpr hne⟩

end Value

end SchemaJoins
