import SchemaJoins.Proofs.Schema.Lookup
import SchemaJoins.Schema.Dimension

/-! # Companions

A companion holds the history of an entity and is recognised by its name. The search
goes through the possible names in order and ends at the first one that spells an
entity, also where this is the entity that the companion is sought for: its own name
is left out of the search, its name in storage is not.
-/

namespace SchemaJoins.Schema.Dimension

variable {g : Graph} {e x : Entity} {s name : String}

section Candidates

def IsCandidate (e : Entity) (s : String) : Prop :=
  ∃ ending ∈ companionEndings, s = e.name ++ ending ∨
    ∃ source, e.sourceName = .text source ∧ s = source ++ ending

theorem mem_companionNames (h : e.table.IsOptionalText) :
    s ∈ companionNames e ↔ IsCandidate e s := by
  obtain ⟨source, hsource⟩ := e.exists_sourceName h
  simp only [companionNames, IsCandidate, hsource, display_text, List.mem_flatMap, List.mem_map,
    List.mem_cons, List.not_mem_nil, or_false, exists_eq_or_imp, exists_eq_left, Value.text.injEq,
    exists_eq_left']
  constructor
  · rintro (⟨ending, hmem, rfl⟩ | ⟨ending, hmem, rfl⟩)
    · exact ⟨ending, hmem, .inl rfl⟩
    · exact ⟨ending, hmem, .inr rfl⟩
  · rintro ⟨ending, hmem, rfl | rfl⟩
    · exact .inl ⟨ending, hmem, rfl⟩
    · exact .inr ⟨ending, hmem, rfl⟩

def soughtNames (e : Entity) : List String := (companionNames e).filter (· != e.name)

theorem mem_soughtNames (h : e.table.IsOptionalText) :
    s ∈ soughtNames e ↔ IsCandidate e s ∧ s ≠ e.name := by
  rw [soughtNames, List.mem_filter, mem_companionNames h, bne_iff_ne]

def HasCompanion (g : Graph) (e : Entity) : Prop :=
  ∃ x ∈ g.entities, x ≠ e ∧ ∃ s, IsCandidate e s ∧ x.IsSpelled s

/-- The search finds another entity if there is a companion, and ends without one only if
there is none. -/
def FindsCompanion (g : Graph) (e : Entity) : Prop :=
  ∃ found, companion? g e = .ok found ∧ found ≠ some e.name ∧
    (HasCompanion g e → ∃ x ∈ g.entities, x ≠ e ∧ found = some x.name) ∧
    (found = none → ¬ HasCompanion g e)

end Candidates

section Search

/-- The first sought name that spells anything is one that the entity itself is found
under. -/
def StopsAtItself (g : Graph) (e : Entity) : Prop :=
  ∃ s, IsFirst g.IsSpelling (soughtNames e) s ∧ g.IsSpelledFirst s e

/-- The name is that of another entity, which is found under the first sought name that
spells anything. -/
def IsFound (g : Graph) (e : Entity) (name : String) : Prop :=
  ∃ s x, IsFirst g.IsSpelling (soughtNames e) s ∧ g.IsSpelledFirst s x ∧ x ≠ e ∧ x.name = name

theorem companion?_eq (hg : g.HasTextTables) (e : Entity) : companion? g e =
    .ok ((((soughtNames e).findSome? g.spelled?).map (·.name)).filter (· != e.name)) := by
  rw [companion?, Graph.findByName?_eq hg]
  rfl

theorem companion?_cases (hg : g.HasTextTables) (he : e ∈ g.entities) :
    (companion? g e = .ok none ∧ ∀ s ∈ soughtNames e, ¬ g.IsSpelling s) ∨
    (companion? g e = .ok none ∧ StopsAtItself g e) ∨
    ∃ name, companion? g e = .ok (some name) ∧ IsFound g e name := by
  rw [companion?_eq hg]
  cases hfound : (soughtNames e).findSome? g.spelled? with
  | none => exact .inl ⟨rfl, (Graph.findSome?_spelled?_eq_none_iff hg).mp hfound⟩
  | some x =>
    obtain ⟨s, hfirst, hx⟩ := (Graph.findSome?_spelled?_iff hg).mp hfound
    by_cases hself : x = e
    · subst hself
      refine .inr (.inl ⟨?_, s, hfirst, hx⟩)
      simp
    · have hname : x.name ≠ e.name := fun h => hself (Graph.eq_of_name_eq hx.1 he h)
      refine .inr (.inr ⟨x.name, ?_, s, x, hfirst, hx, hself, rfl⟩)
      simp [hname]

theorem IsFound.ne_name (h : IsFound g e name) (he : e ∈ g.entities) : name ≠ e.name := by
  obtain ⟨_, x, -, hx, hne, rfl⟩ := h
  exact fun hname => hne (Graph.eq_of_name_eq hx.1 he hname)

theorem IsFound.unique (h : IsFound g e name) {other : String} (h' : IsFound g e other) :
    name = other := by
  obtain ⟨s, x, hs, hx, -, rfl⟩ := h
  obtain ⟨t, y, ht, hy, -, rfl⟩ := h'
  rw [ht.unique hs] at hy
  rw [hx.unique hy]

/-- A candidate that is not the name of the entity spells something, and the first such
name is not one that the entity itself is found under. -/
def IsUnobstructed (g : Graph) (e : Entity) : Prop :=
  (∃ s, IsCandidate e s ∧ s ≠ e.name ∧ g.IsSpelling s) ∧ ¬ StopsAtItself g e

theorem exists_sought_iff (h : e.table.IsOptionalText) :
    (∃ s ∈ soughtNames e, g.IsSpelling s) ↔
      ∃ s, IsCandidate e s ∧ s ≠ e.name ∧ g.IsSpelling s := by
  simp only [mem_soughtNames h, and_assoc]

theorem IsFound.isUnobstructed (he : e.table.IsOptionalText) (h : IsFound g e name) :
    IsUnobstructed g e := by
  obtain ⟨s, x, hs, hx, hne, -⟩ := h
  refine ⟨(exists_sought_iff he).mp ⟨s, hs.mem, hs.fits⟩, ?_⟩
  rintro ⟨t, ht, he⟩
  rw [ht.unique hs] at he
  exact hne (hx.unique he)

theorem HasCompanion.isUnobstructed (he : e.table.IsOptionalText)
    (hself : ∀ s, IsCandidate e s → ¬ e.IsSpelled s) (h : HasCompanion g e) :
    IsUnobstructed g e := by
  obtain ⟨x, hx, -, s, hs, hspelled⟩ := h
  have hne : s ≠ e.name := by
    rintro rfl
    exact hself e.name hs (.inl rfl)
  refine ⟨⟨s, hs, hne, x, hx, hspelled⟩, ?_⟩
  rintro ⟨t, ht, -, hspells, -⟩
  exact hself t ((mem_soughtNames he).mp ht.mem).1 hspells

theorem exists_companion? (hg : g.HasTextTables) (he : e ∈ g.entities) :
    ∃ found, companion? g e = .ok found ∧ (∀ name, found = some name ↔ IsFound g e name) ∧
      (found = none ↔ ¬ IsUnobstructed g e) := by
  have htable := hg e he
  obtain ⟨hnone, hunspelled⟩ | ⟨hnone, hstops⟩ | ⟨name, hsome, hname⟩ := companion?_cases hg he
  · have hnot : ¬ IsUnobstructed g e := by
      rintro ⟨hsought, -⟩
      obtain ⟨s, hs, hspelling⟩ := (exists_sought_iff htable).mpr hsought
      exact hunspelled s hs hspelling
    exact ⟨none, hnone, fun _ => iff_of_false nofun fun h => hnot (h.isUnobstructed htable),
      iff_of_true rfl hnot⟩
  · have hnot : ¬ IsUnobstructed g e := fun h => h.2 hstops
    exact ⟨none, hnone, fun _ => iff_of_false nofun fun h => hnot (h.isUnobstructed htable),
      iff_of_true rfl hnot⟩
  · refine ⟨some name, hsome, fun other => ⟨?_, fun h => congrArg some (hname.unique h)⟩,
      iff_of_false nofun (not_not.mpr (hname.isUnobstructed htable))⟩
    rintro ⟨⟩
    exact hname

theorem findsCompanion_iff_isUnobstructed (hg : g.HasTextTables) (he : e ∈ g.entities) :
    FindsCompanion g e ↔ (HasCompanion g e → IsUnobstructed g e) := by
  obtain ⟨found, hfound, hsome, hnone⟩ := exists_companion? hg he
  refine ⟨?_, fun h => ⟨found, hfound, ?_, fun hcompanion => ?_, ?_⟩⟩
  · rintro ⟨other, hother, -, -, hends⟩ hcompanion
    obtain rfl := Except.ok.inj (hfound.symm.trans hother)
    exact not_not.mp fun hnot => hends (hnone.mpr hnot) hcompanion
  · exact fun hself => ((hsome _).mp hself).ne_name he rfl
  · cases hresult : found with
    | none => exact absurd (h hcompanion) (hnone.mp hresult)
    | some name =>
      obtain ⟨_, x, -, hx, hne, rfl⟩ := (hsome name).mp hresult
      exact ⟨x, hx.1, hne, rfl⟩
  · exact fun hresult hcompanion => hnone.mp hresult (h hcompanion)

/-- The search always ends, with the entity that it first comes to unless this is the entity
itself. So a companion is missed exactly where the search comes to the entity itself before
any other, or where no candidate but the name of the entity spells anything; and none is
missed where no candidate spells the entity itself. -/
theorem findsCompanion_iff (hg : g.HasTextTables) (he : e ∈ g.entities) :
    (∃ found, companion? g e = .ok found ∧ ∀ name, found = some name ↔ IsFound g e name) ∧
    (FindsCompanion g e ↔ (HasCompanion g e → IsUnobstructed g e)) ∧
    ((∀ s, IsCandidate e s → ¬ e.IsSpelled s) → FindsCompanion g e) := by
  obtain ⟨found, hfound, hsome, -⟩ := exists_companion? hg he
  have hiff := findsCompanion_iff_isUnobstructed hg he
  exact ⟨⟨found, hfound, hsome⟩, hiff,
    fun hself => hiff.mpr fun hcompanion => hcompanion.isUnobstructed (hg e he) hself⟩

/-- Orders that are stored under the name of their own history, beside a dimension. -/
def orders : Entity := { name := "orders", table := .text "orders_history" }

def ordersDimension : Entity := { name := "orders_dim" }

def warehouse : Graph := ⟨[orders, ordersDimension], by simp [orders, ordersDimension]⟩

theorem hasTextTables_warehouse : warehouse.HasTextTables := by
  intro e he
  rcases List.mem_pair.mp he with rfl | rfl
  · exact Value.isOptionalText_text _
  · exact Value.isOptionalText_null

theorem findsCompanion_iff_orders :
    warehouse.HasTextTables ∧ orders ∈ warehouse.entities ∧
    (∃ found, companion? warehouse orders = .ok found ∧
      ∀ name, found = some name ↔ IsFound warehouse orders name) ∧
    (FindsCompanion warehouse orders ↔
      (HasCompanion warehouse orders → IsUnobstructed warehouse orders)) ∧
    ((∀ s, IsCandidate orders s → ¬ orders.IsSpelled s) → FindsCompanion warehouse orders) :=
  ⟨hasTextTables_warehouse, List.mem_cons_self,
    findsCompanion_iff hasTextTables_warehouse List.mem_cons_self⟩

theorem stopsAtItself_orders : StopsAtItself warehouse orders := by
  have hspelled : orders.IsSpelled "orders_history" := .inr ⟨_, rfl, rfl⟩
  have hfirst : IsFirst warehouse.IsSpelling (soughtNames orders) "orders_history" :=
    ⟨[], _, rfl, ⟨orders, List.mem_cons_self, hspelled⟩, nofun⟩
  refine ⟨_, hfirst, List.mem_cons_self, hspelled, fun x hx _ => ?_⟩
  rcases List.mem_pair.mp hx with rfl | rfl
  · exact String.le_refl _
  · decide

/-- The dimension of the orders is missed: the search ends at the orders themselves. -/
theorem not_findsCompanion_orders : ¬ ∀ (g : Graph) (e : Entity), g.HasTextTables →
    e ∈ g.entities → FindsCompanion g e := by
  intro h
  have hcompanion : HasCompanion warehouse orders :=
    ⟨ordersDimension, List.mem_cons_of_mem _ List.mem_cons_self, by simp [orders, ordersDimension],
      "orders_dim", ⟨"_dim", by decide, .inl rfl⟩, .inl rfl⟩
  obtain ⟨found, hfound, -, hnone⟩ := exists_companion? hasTextTables_warehouse List.mem_cons_self
  obtain ⟨other, hother, -, -, hends⟩ := h warehouse orders hasTextTables_warehouse
    List.mem_cons_self
  obtain rfl := Except.ok.inj (hfound.symm.trans hother)
  exact hends (hnone.mpr fun hfree => hfree.2 stopsAtItself_orders) hcompanion

end Search

section Totality

theorem exists_hasNameEnding_iff {v : Value} :
    (∃ named, hasNameEnding v = .ok named) ↔ ∃ s, v = .text s := by
  constructor
  · rintro ⟨_, h⟩
    obtain ⟨_, hlowered, h⟩ := bind_eq_ok.mp h
    obtain ⟨s, rfl⟩ | ⟨bs, rfl⟩ := Value.exists_lowered_iff.mp ⟨_, hlowered⟩
    · exact ⟨s, rfl⟩
    · cases hlowered
      cases h
  · rintro ⟨s, rfl⟩
    exact ⟨_, rfl⟩

/-- The storage name is not asked for its ending where the name has one. -/
theorem exists_indicators_iff : (∃ marks, indicators e = .ok marks) ↔
    hasNameEnding (.text e.name) = .ok true ∨ ∃ s, e.sourceName = .text s := by
  obtain ⟨own, hown⟩ := exists_hasNameEnding_iff.mpr ⟨e.name, rfl⟩
  rw [← exists_hasNameEnding_iff, indicators, List.anyM, hown]
  cases own with
  | true => exact iff_of_true ⟨_, rfl⟩ (.inl rfl)
  | false =>
    rw [or_iff_right (by simp), List.anyM]
    cases hasNameEnding e.sourceName with
    | error f => exact iff_of_false (by rintro ⟨_, ⟨⟩⟩) (by rintro ⟨_, ⟨⟩⟩)
    | ok named => cases named <;> exact iff_of_true ⟨_, rfl⟩ ⟨_, rfl⟩

theorem exists_detect (hg : g.HasTextTables) (he : e.table.IsOptionalText) :
    ∃ found, detect g e = .ok found := by
  obtain ⟨marks, hmarks⟩ := exists_indicators_iff.mpr (.inr (e.exists_sourceName he))
  exact ⟨_, bind_eq_ok.mpr ⟨_, companion?_eq hg e, bind_eq_ok.mpr ⟨marks, hmarks, rfl⟩⟩⟩

end Totality

end SchemaJoins.Schema.Dimension
