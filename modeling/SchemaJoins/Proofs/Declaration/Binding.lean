import Mathlib.Data.List.Basic
import SchemaJoins.Declaration.Bind
import SchemaJoins.Proofs.Validation.Declared

/-! # Which references bind

Binding counts the values of a reference and checks each value that is given. A
required parameter that lies behind the last given value is not checked: it gets
its default. Where the required parameters come first, the count alone rules this
out.
-/

namespace SchemaJoins.Declaration

/-- A value can be given for a parameter: no value only for an optional one, and
any other value only if its type accepts it. -/
def Suits (p : Parameter) (v : Value) : Prop :=
  (v = .null → p.required = false) ∧ (v ≠ .null → acceptsValue p.typeName v = true)

structure Fits (d : Declaration) (r : Reference) : Prop where
  join_name : r.join = d.name
  field_name : r.field ∈ d.fields.map Prod.fst
  enough : d.requiredCount ≤ r.parameters.length
  most : r.parameters.length ≤ d.parameters.length
  suits : ∀ (i : Nat) (p : Parameter) (v : Value), d.parameters[i]? = some p →
    r.parameters[i]? = some v → Suits p v

/-- What a declaration demands: every required parameter has a value, and every
value that is given is accepted by the type of its parameter. -/
structure Satisfies (d : Declaration) (r : Reference) : Prop where
  join_name : r.join = d.name
  field_name : r.field ∈ d.fields.map Prod.fst
  most : r.parameters.length ≤ d.parameters.length
  supplied : ∀ (i : Nat) (p : Parameter), d.parameters[i]? = some p → p.required = true →
    ∃ v, r.parameters[i]? = some v ∧ v ≠ .null
  accepted : ∀ (i : Nat) (p : Parameter) (v : Value), d.parameters[i]? = some p →
    r.parameters[i]? = some v → v ≠ .null → acceptsValue p.typeName v = true

/-- Every required parameter stands at a position for which a value is given. -/
def ReachesRequired (d : Declaration) (r : Reference) : Prop :=
  ∀ (i : Nat) (p : Parameter), d.parameters[i]? = some p → p.required = true →
    i < r.parameters.length

def RequiredFirst (d : Declaration) : Prop :=
  d.parameters.Pairwise fun p q => q.required = true → p.required = true

section Parameters

variable {p : Parameter} {ps : List Parameter} {v : Value} {vs : List Value}

theorem valueError?_eq_none : valueError? p v = none ↔ Suits p v := by
  by_cases hv : v = .null
  · subst hv
    simp [valueError?, Suits]
  · have he : valueError? p v = if acceptsValue p.typeName v then none
        else some ("Parameter '" ++ p.name ++ "' expects " ++ p.typeName ++ ", got " ++
          v.literal) := by
      cases v with
      | null => exact absurd rfl hv
      | _ => rfl
    simp [he, Suits, hv]

theorem errors_bindParameters : (bindParameters ps vs).errors = [] ↔
    ∀ (i : Nat) (p : Parameter) (v : Value), ps[i]? = some p → vs[i]? = some v → Suits p v := by
  induction ps generalizing vs with
  | nil => simp [bindParameters]
  | cons p ps ih =>
    cases vs with
    | nil => simpa [bindParameters] using @ih []
    | cons v vs =>
      have hcons : (bindParameters (p :: ps) (v :: vs)).errors = [] ↔
          Suits p v ∧ (bindParameters ps vs).errors = [] := by
        simp [bindParameters, valueError?_eq_none]
      rw [hcons, ih]
      constructor
      · rintro ⟨hv, hvs⟩ i q w hq hw
        cases i with
        | zero =>
          cases hq
          cases hw
          exact hv
        | succ i => exact hvs i q w hq hw
      · intro h
        exact ⟨h 0 p v rfl rfl, fun i q w hq hw => h (i + 1) q w hq hw⟩

theorem names_bindParameters :
    (bindParameters ps vs).values.map Prod.fst = ps.map (·.name) := by
  induction ps generalizing vs with
  | nil => rfl
  | cons p ps ih => cases vs <;> simp [bindParameters, ih]

theorem lookup_bindParameters (hps : (ps.map (·.name)).Nodup) {i : Nat} (hp : ps[i]? = some p) :
    (bindParameters ps vs).values.lookup p.name = some ((vs[i]?).getD p.default) := by
  induction ps generalizing vs i with
  | nil => cases hp
  | cons q ps ih =>
    obtain ⟨hq, hnodup⟩ := List.nodup_cons.mp hps
    cases i with
    | zero =>
      cases hp
      cases vs <;> simp [bindParameters]
    | succ i =>
      have hmem : p ∈ ps := List.mem_of_getElem? hp
      have hne : (p.name == q.name) = false := by
        rw [beq_eq_false_iff_ne]
        intro he
        exact hq (List.mem_map.mpr ⟨p, hmem, he⟩)
      cases vs with
      | nil => simpa [bindParameters, List.lookup_cons, hne] using @ih [] hnodup i hp
      | cons v vs => simpa [bindParameters, List.lookup_cons, hne] using ih hnodup hp

theorem lt_countP_required {i : Nat}
    (hps : ps.Pairwise fun p q => q.required = true → p.required = true)
    (hp : ps[i]? = some p) (hr : p.required = true) : i < ps.countP (·.required) := by
  induction ps generalizing i with
  | nil => cases hp
  | cons q ps ih =>
    obtain ⟨hq, hps⟩ := List.pairwise_cons.mp hps
    rw [List.countP_cons]
    cases i with
    | zero =>
      cases hp
      rw [if_pos hr]
      omega
    | succ i =>
      have hqr : q.required = true := hq p (List.mem_of_getElem? hp) hr
      have hi := ih hps hp
      rw [if_pos hqr]
      omega

theorem countP_required_le {n : Nat}
    (h : ∀ (i : Nat) (p : Parameter), ps[i]? = some p → p.required = true → i < n) :
    ps.countP (·.required) ≤ n := by
  have hdrop : (ps.drop n).countP (·.required) = 0 := by
    rw [List.countP_eq_zero]
    intro p hp hr
    obtain ⟨i, hi⟩ := List.mem_iff_getElem?.mp hp
    rw [List.getElem?_drop] at hi
    have := h (n + i) p hi hr
    omega
  have htake : (ps.take n).countP (·.required) ≤ n :=
    Nat.le_trans List.countP_le_length (List.length_take_le n ps)
  rw [← List.take_append_drop n ps, List.countP_append, hdrop]
  exact htake

end Parameters

variable {d : Declaration} {r : Reference}

theorem any_eq_field : d.fields.any (·.1 == r.field) = true ↔ r.field ∈ d.fields.map Prod.fst := by
  simp

theorem bind_of_count (h : d.requiredCount ≤ r.parameters.length)
    (h' : r.parameters.length ≤ d.parameters.length) :
    d.bind r = ⟨(bindParameters d.parameters r.parameters).values,
      (if r.join == d.name then []
        else ["Reference targets join '" ++ r.join ++ "', not '" ++ d.name ++ "'"]) ++
      (if d.fields.any (·.1 == r.field) then []
        else ["Join '" ++ d.path ++ "' has no field '" ++ r.field ++ "'"]) ++
      (bindParameters d.parameters r.parameters).errors⟩ := by
  have hcount : ¬ (r.parameters.length < d.requiredCount ∨
      r.parameters.length > d.parameters.length) := by omega
  simp only [bind, if_neg hcount]

theorem isOk_bind : (d.bind r).isOk = true ↔ Fits d r := by
  rw [Binding.isOk, List.isEmpty_iff]
  by_cases hcount : d.requiredCount ≤ r.parameters.length ∧
      r.parameters.length ≤ d.parameters.length
  · obtain ⟨henough, hmost⟩ := hcount
    rw [bind_of_count henough hmost]
    simp only [List.append_eq_nil_iff, errors_bindParameters, ite_eq_left_iff, List.cons_ne_nil,
      imp_false, not_not, beq_iff_eq, any_eq_field]
    constructor
    · rintro ⟨⟨hj, hf⟩, hv⟩
      exact ⟨hj, hf, henough, hmost, hv⟩
    · intro h
      exact ⟨⟨h.join_name, h.field_name⟩, h.suits⟩
  · constructor
    · intro h
      have hbad : r.parameters.length < d.requiredCount ∨
          r.parameters.length > d.parameters.length := by omega
      simp [bind, hbad] at h
    · intro h
      exact absurd ⟨h.enough, h.most⟩ hcount

theorem Satisfies.reachesRequired (h : Satisfies d r) : ReachesRequired d r := by
  intro i p hp hr
  obtain ⟨v, hv, -⟩ := h.supplied i p hp hr
  exact (List.getElem?_eq_some_iff.mp hv).1

theorem satisfies_iff_fits : Satisfies d r ↔ Fits d r ∧ ReachesRequired d r := by
  constructor
  · intro h
    have hr := h.reachesRequired
    refine ⟨⟨h.join_name, h.field_name, countP_required_le hr, h.most, ?_⟩, hr⟩
    intro i p v hp hv
    refine ⟨fun hnull => ?_, h.accepted i p v hp hv⟩
    by_contra hrequired
    obtain ⟨w, hw, hne⟩ := h.supplied i p hp (by simpa using hrequired)
    rw [hv] at hw
    cases hw
    exact hne hnull
  · rintro ⟨h, hr⟩
    refine ⟨h.join_name, h.field_name, h.most, fun i p hp hrequired => ?_,
      fun i p v hp hv => (h.suits i p v hp hv).2⟩
    have hv := List.getElem?_eq_getElem (hr i p hp hrequired)
    refine ⟨_, hv, fun hnull => ?_⟩
    rw [(h.suits i p _ hp hv).1 hnull] at hrequired
    cases hrequired

theorem Fits.reachesRequired (h : Fits d r) (hd : RequiredFirst d) : ReachesRequired d r :=
  fun _ _ hp hr => Nat.lt_of_lt_of_le (lt_countP_required hd hp hr) h.enough

theorem values_bind (h : Fits d r) :
    (d.bind r).values = (bindParameters d.parameters r.parameters).values := by
  rw [bind_of_count h.enough h.most]

/-- A reference binds exactly when the names fit, the values are at least as many
as the required parameters and at most as many as all, and each suits its
parameter. It then gives all that is demanded when no required parameter lies
behind its values, in particular when the required parameters come first. Each
parameter is bound to the value at its position, or else to its default. -/
theorem isOk_bind_iff_fits (d : Declaration) (r : Reference) (hd : d.parameterNames.Nodup) :
    ((d.bind r).isOk = true ↔ Fits d r) ∧
    (Satisfies d r ↔ (d.bind r).isOk = true ∧ ReachesRequired d r) ∧
    (RequiredFirst d → ((d.bind r).isOk = true ↔ Satisfies d r)) ∧
    ((d.bind r).isOk = true →
      (d.bind r).values.map Prod.fst = d.parameterNames ∧
      ∀ (i : Nat) (p : Parameter), d.parameters[i]? = some p →
        (d.bind r).values.lookup p.name = some ((r.parameters[i]?).getD p.default)) := by
  refine ⟨isOk_bind, ?_, fun hfirst => ?_, fun h => ?_⟩
  · rw [isOk_bind, satisfies_iff_fits]
  · rw [isOk_bind, satisfies_iff_fits]
    exact ⟨fun h => ⟨h, h.reachesRequired hfirst⟩, And.left⟩
  · rw [values_bind (isOk_bind.mp h)]
    exact ⟨names_bindParameters, fun i p hp => lookup_bindParameters hd hp⟩

/-- A required size behind an optional colour. -/
def shirts : Declaration :=
  { name := "shirts", path := "shirts"
    parameters := [{ name := "colour", typeName := "string" },
      { name := "size", typeName := "integer", required := true }]
    fields := [("price", "decimal")], condition := none }

theorem isOk_bind_iff_fits_shirts :
    let r : Reference := { join := "shirts", field := "price", parameters := [.null, .int 42] }
    shirts.parameterNames.Nodup ∧
    ((shirts.bind r).isOk = true ↔ Fits shirts r) ∧
    (Satisfies shirts r ↔ (shirts.bind r).isOk = true ∧ ReachesRequired shirts r) ∧
    (RequiredFirst shirts → ((shirts.bind r).isOk = true ↔ Satisfies shirts r)) ∧
    ((shirts.bind r).isOk = true →
      (shirts.bind r).values.map Prod.fst = shirts.parameterNames ∧
      ∀ (i : Nat) (p : Parameter), shirts.parameters[i]? = some p →
        (shirts.bind r).values.lookup p.name = some ((r.parameters[i]?).getD p.default)) := by
  intro r
  have hd : shirts.parameterNames.Nodup := by decide
  exact ⟨hd, isOk_bind_iff_fits shirts r hd⟩

/-- One value is as many as there are required parameters, but it is the colour:
the reference binds without a size. -/
theorem not_satisfies_of_bind_shirts :
    ¬ ∀ (d : Declaration) (r : Reference), d.check = .ok d →
      ((d.bind r).isOk = true ↔ Satisfies d r) := by
  intro h
  have hcheck : shirts.check = .ok shirts :=
    Validation.check_eq_ok (by decide) fun _ hp => absurd hp List.not_mem_nil
  have hok := h shirts { join := "shirts", field := "price", parameters := [.text "red"] } hcheck
  obtain ⟨v, hv, -⟩ := (hok.mp rfl).supplied 1 _ rfl rfl
  cases hv

end SchemaJoins.Declaration
