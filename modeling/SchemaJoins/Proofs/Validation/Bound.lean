import SchemaJoins.Proofs.Declaration.Binding
import SchemaJoins.Proofs.Validation.Declarations
import SchemaJoins.Reference.Parse

/-! # The types of bound values

A binding takes its values from the reference and from the defaults of a declaration.
Those of the reference are checked against the types of their parameters. A default is
taken as it stands: neither the checks of a joins mapping nor binding look at it.
-/

namespace SchemaJoins

namespace Declaration

/-- No value, for a parameter that is not required, or one that its type accepts. -/
def WellTyped (p : Parameter) (v : Value) : Prop :=
  v = .null ∧ p.required = false ∨ acceptsValue p.typeName v = true

def BindsWellTyped (d : Declaration) (r : Reference) : Prop :=
  ∀ p ∈ d.parameters, ∃ v, (d.bind r).values.lookup p.name = some v ∧ WellTyped p v

variable {d : Declaration} {r : Reference} {p : Parameter} {v : Value} {i : Nat}

theorem acceptsValue_null (typeName : String) : acceptsValue typeName .null = false := by
  unfold acceptsValue
  cases ParameterType.ofName? typeName with
  | none => rfl
  | some t => cases t <;> rfl

theorem suits_iff_wellTyped : Suits p v ↔ WellTyped p v := by
  unfold Suits WellTyped
  by_cases hv : v = .null
  · subst hv
    simp [acceptsValue_null]
  · simp [hv]

theorem lookup_bind (hd : d.parameterNames.Nodup) (h : Fits d r) (hp : d.parameters[i]? = some p) :
    (d.bind r).values.lookup p.name = some ((r.parameters[i]?).getD p.default) := by
  rw [values_bind h]
  exact lookup_bindParameters hd hp

theorem lookup_bind_given (hd : d.parameterNames.Nodup) (h : Fits d r)
    (hp : d.parameters[i]? = some p) (hv : r.parameters[i]? = some v) :
    (d.bind r).values.lookup p.name = some v ∧ WellTyped p v := by
  constructor
  · rw [lookup_bind hd h hp, hv]
    rfl
  · exact suits_iff_wellTyped.mp (h.suits i p v hp hv)

theorem lookup_bind_default (hd : d.parameterNames.Nodup) (h : Fits d r)
    (hp : d.parameters[i]? = some p) (hv : r.parameters[i]? = none) :
    (d.bind r).values.lookup p.name = some p.default := by
  rw [lookup_bind hd h hp, hv]
  rfl

/-- Where every required parameter is given, the defaults that are taken decide whether
all that is bound is well typed. -/
theorem bindsWellTyped_iff (hd : d.parameterNames.Nodup) (h : Fits d r)
    (hreach : ReachesRequired d r) : BindsWellTyped d r ↔
      ∀ (i : Nat) (p : Parameter), d.parameters[i]? = some p → r.parameters[i]? = none →
        p.default = .null ∨ acceptsValue p.typeName p.default = true := by
  constructor
  · intro hall i p hp hv
    obtain ⟨v, hlookup, htyped⟩ := hall p (List.mem_of_getElem? hp)
    rw [lookup_bind_default hd h hp hv] at hlookup
    cases hlookup
    exact htyped.imp_left And.left
  · intro hdefaults p hm
    obtain ⟨i, hp⟩ := List.mem_iff_getElem?.mp hm
    cases hv : r.parameters[i]? with
    | some v => exact ⟨v, lookup_bind_given hd h hp hv⟩
    | none =>
      -- a parameter without a value cannot be a required one
      have hoptional : p.required = false := by
        by_contra hrequired
        have hi := hreach i p hp (by simpa using hrequired)
        rw [List.getElem?_eq_none_iff] at hv
        omega
      refine ⟨p.default, lookup_bind_default hd h hp hv, ?_⟩
      exact (hdefaults i p hp hv).imp_left fun hnull => ⟨hnull, hoptional⟩

end Declaration

namespace Validation

open Declaration

variable {d : Detail} {decl : Declaration}

theorem typeName_mem_names {v : Value} {p : Parameter} {name : String} (h : IsParameterOf v p)
    (hv : Declares v name) : p.typeName ∈ ParameterType.names := by
  obtain ⟨entries, rfl, -, htype, -⟩ := h
  obtain ⟨_, he, -, ⟨t, ht, hfound⟩, -⟩ := hv
  cases he
  rw [htype] at hfound
  cases hfound
  exact ht

theorem typeNames_of_isDeclarationOf (h : IsDeclarationOf d decl) (hd : detailIssues d = []) :
    ∀ p ∈ decl.parameters, p.typeName ∈ ParameterType.names := by
  intro p hp
  have hissues : parametersIssues d = [] := by
    rw [detailIssues, List.append_eq_nil_iff, List.append_eq_nil_iff] at hd
    exact hd.1.1
  obtain ⟨items, names, hitems, hnames, -⟩ := parametersIssues_eq_nil.mp hissues
  obtain ⟨items', hitems', hparameters⟩ := h.parameters
  obtain rfl := hitems.unique hitems'
  obtain ⟨v, hv, hof⟩ := exists_of_mem_right hparameters hp
  obtain ⟨name, -, hname⟩ := exists_of_mem_left hnames hv
  exact typeName_mem_names hof hname

theorem IsEntryOf.of_declaration {e : Entry} (h : IsEntryOf d e) (he : e.declaration = some decl) :
    detailIssues d = [] ∧ IsDeclarationOf d decl := by
  by_cases hd : detailIssues d = []
  · obtain ⟨decl', he', -, hof⟩ := h.declared hd
    rw [he] at he'
    cases he'
    exact ⟨hd, hof⟩
  · rw [h.refused hd] at he
    cases he

/-- Whenever a reference binds to a declaration of a report, every value that it gives is
bound, and well typed. A parameter that is not required and has no value given is bound to
its default as it is declared. So with the required parameters given, all that is bound is
well typed exactly if each default that is taken is no value or one that its type
accepts. -/
theorem bind_wellTyped (joins : List (Value × Value)) : ∃ report, check joins = .ok report ∧
    ∀ e ∈ report.entries, ∀ decl, e.declaration = some decl →
      IsDeclarationOf e.detail decl ∧
      (∀ p ∈ decl.parameters, p.typeName ∈ ParameterType.names) ∧
      ∀ r, (decl.bind r).isOk = true →
        (decl.bind r).values.map Prod.fst = decl.parameterNames ∧
        (∀ (i : Nat) (p : Parameter) (v : Value), decl.parameters[i]? = some p →
          r.parameters[i]? = some v →
          (decl.bind r).values.lookup p.name = some v ∧ WellTyped p v) ∧
        (∀ (i : Nat) (p : Parameter), decl.parameters[i]? = some p →
          r.parameters[i]? = none → p.required = false →
          (decl.bind r).values.lookup p.name = some p.default) ∧
        (ReachesRequired decl r → (BindsWellTyped decl r ↔
          ∀ (i : Nat) (p : Parameter), decl.parameters[i]? = some p → r.parameters[i]? = none →
            p.default = .null ∨ acceptsValue p.typeName p.default = true)) := by
  obtain ⟨found, hcheck, hall⟩ := exists_report joins
  refine ⟨_, hcheck, fun e he decl hdecl => ?_⟩
  obtain ⟨d, -, hentry⟩ := exists_of_mem_right hall he
  obtain ⟨hd, hof⟩ := hentry.of_declaration hdecl
  refine ⟨hentry.detail ▸ hof, typeNames_of_isDeclarationOf hof hd, fun r hok => ?_⟩
  have hfits : Fits decl r := isOk_bind.mp hok
  refine ⟨?_, ?_, ?_, ?_⟩
  · rw [values_bind hfits]
    exact names_bindParameters
  · exact fun i p v => lookup_bind_given hof.nodup hfits
  · exact fun i p hp hv _ => lookup_bind_default hof.nodup hfits hp hv
  · exact bindsWellTyped_iff hof.nodup hfits

def tenLimit : Value :=
  .map [(.text "name", .text "limit"), (.text "type", .text "integer"),
    (.text "default", .text "ten")]

def tenFields : Value := .map [(.text "price", .map [(.text "type", .text "decimal")])]

def tenProducts : List (Value × Value) :=
  [(.text "products", .map [(.text "parameters", .list [tenLimit]), (.text "fields", tenFields)])]

def tenDeclaration : Declaration :=
  { name := "products", path := "products"
    parameters := [{ name := "limit", typeName := "integer", default := .text "ten" }]
    fields := [("price", "decimal")], condition := none }

/-- A reference without values binds the text to the integer. -/
theorem not_bind_wellTyped_tenProducts :
    ¬ ∀ joins report e decl text r, check joins = .ok report → e ∈ report.entries →
      e.declaration = some decl → Reference.parse text = .ok (.ok r) →
      (decl.bind r).isOk = true → BindsWellTyped decl r := by
  intro h
  have hcheck : check tenProducts = .ok ⟨[⟨⟨"products", "products", .list [tenLimit], tenFields,
      .null⟩, some tenDeclaration⟩], [], true⟩ := by with_unfolding_all rfl
  have hparse : Reference.parse "products.price" = .ok (.ok ⟨"products", "price", []⟩) := rfl
  obtain ⟨v, hlookup, htyped⟩ := h _ _ _ tenDeclaration _ _ hcheck List.mem_cons_self rfl hparse
    rfl _ List.mem_cons_self
  cases hlookup
  obtain ⟨hnull, -⟩ | haccepts := htyped
  · cases hnull
  · exact absurd haccepts (by decide)

end Validation

end SchemaJoins
