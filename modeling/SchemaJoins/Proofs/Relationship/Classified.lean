import SchemaJoins.Proofs.Schema.Graph
import SchemaJoins.Relationship.Classify

/-! # What classifying gives

Every relationship of an entity comes from one of its associations: a direct one
has the keys of the association or their defaults, and one through a junction
has a single column on each side.
-/

namespace SchemaJoins

namespace Relationship

open Schema

variable {g : Graph} {e : Entity} {a : Association} {r : Relationship}

theorem mem_classifyEach : {as : List Association} → {rs : List Relationship} →
    (classifyEach g e as).result = .ok rs →
    (r ∈ rs ↔ ∃ a ∈ as, (classifyAssociation g e a).result = .ok (some r))
  | [], rs, h => by
    obtain rfl : [] = rs := Except.ok.inj h
    simp
  | a :: as, rs, h => by
    obtain ⟨found, hfound, h⟩ := Logged.result_bind_eq_ok.mp h
    obtain ⟨others, hothers, h⟩ := Logged.result_bind_eq_ok.mp h
    obtain rfl : found.toList ++ others = rs := Except.ok.inj h
    rw [List.mem_append, mem_classifyEach hothers]
    simp [hfound]

theorem mem_ofEntities : {es : List Entity} → {rs : List Relationship} →
    (ofEntities g es).result = .ok rs →
    (r ∈ rs ↔ ∃ e ∈ es, ∃ a ∈ e.associations,
      (classifyAssociation g e a).result = .ok (some r))
  | [], rs, h => by
    obtain rfl : [] = rs := Except.ok.inj h
    simp
  | e :: es, rs, h => by
    obtain ⟨own, hown, h⟩ := Logged.result_bind_eq_ok.mp h
    obtain ⟨others, hothers, h⟩ := Logged.result_bind_eq_ok.mp h
    obtain rfl : own ++ others = rs := Except.ok.inj h
    rw [List.mem_append, mem_classifyEach hown, mem_ofEntities hothers]
    simp

theorem mem_classify {name : String} {rs : List Relationship}
    (h : (classify g name).result = .ok rs) :
    ∃ e, g.find? name = some e ∧
      ∀ r, r ∈ rs ↔ ∃ a ∈ e.associations, (classifyAssociation g e a).result = .ok (some r) := by
  obtain ⟨e, he, h⟩ := Logged.result_bind_eq_ok.mp h
  exact ⟨e, Graph.require_eq_ok.mp he, fun r => mem_classifyEach h⟩

theorem throughJunction_eq_ok {name junction ownerSide relatedSide : Value}
    {ownerKey relatedKey : List String} {shape : Shape} :
    throughJunction name junction ownerSide relatedSide ownerKey relatedKey = .ok shape ↔
      junction.isTrue = true ∧ ownerSide.isTrue = true ∧ relatedSide.isTrue = true ∧
      ∃ ownerColumn relatedColumn, ownerKey = [ownerColumn] ∧ relatedKey = [relatedColumn] ∧
        shape = .manyToMany junction ownerSide relatedSide ownerColumn relatedColumn := by
  unfold throughJunction
  constructor
  · intro h
    split at h
    · cases h
    rename_i hjunction
    split at h
    · cases h
    rename_i hsides
    simp only [Bool.not_eq_true', Bool.not_eq_false, Bool.or_eq_true, not_or] at hjunction hsides
    split at h
    · exact ⟨hjunction, hsides.1, hsides.2, _, _, rfl, rfl, (Except.ok.inj h).symm⟩
    · cases h
  · rintro ⟨hjunction, howner, hrelated, ownerColumn, relatedColumn, rfl, rfl, rfl⟩
    simp [hjunction, howner, hrelated]

theorem declaredKind?_ne_selfReference (kind : String) :
    declaredKind? kind ≠ some .selfReference := by
  unfold declaredKind?
  split <;> nofun

def IsDirect (a : Association) (kind : DirectKind) : Prop :=
  declaredKind? a.kind = some (.direct kind)

theorem classifyAssociation_of_isDirect {kind : DirectKind} (h : IsDirect a kind) :
    (classifyAssociation g e a).result = .ok (some (classifyDirect g e a kind)) := by
  unfold classifyAssociation
  rw [show declaredKind? a.kind = _ from h]
  rfl

theorem shape_of_classifyThrough (h : (classifyThrough g e a).result = .ok (some r)) :
    ∃ ownerColumn relatedColumn,
      r = along e a (.manyToMany (junctionOf a) (.text (junctionColumns e a).1)
        (.text (junctionColumns e a).2) ownerColumn relatedColumn) := by
  unfold classifyThrough at h
  dsimp only at h
  split at h
  · cases h
  · split at h
    · rename_i hs
      obtain ⟨-, -, -, ownerColumn, relatedColumn, _, _, rfl⟩ := throughJunction_eq_ok.mp hs
      exact ⟨ownerColumn, relatedColumn, (Option.some.inj (Except.ok.inj h)).symm⟩
    · cases h

theorem classifyAssociation_cases (h : (classifyAssociation g e a).result = .ok (some r)) :
    (∃ kind, IsDirect a kind ∧ r = classifyDirect g e a kind) ∨
    ((∀ kind, ¬ IsDirect a kind) ∧ ∃ ownerColumn relatedColumn,
      r = along e a (.manyToMany (junctionOf a) (.text (junctionColumns e a).1)
        (.text (junctionColumns e a).2) ownerColumn relatedColumn)) := by
  by_cases hd : ∃ kind, IsDirect a kind
  · obtain ⟨kind, hk⟩ := hd
    rw [classifyAssociation_of_isDirect hk] at h
    exact .inl ⟨kind, hk, (Option.some.inj (Except.ok.inj h)).symm⟩
  · refine .inr ⟨fun kind hk => hd ⟨kind, hk⟩, shape_of_classifyThrough (g := g) ?_⟩
    unfold classifyAssociation at h
    split at h
    · exact absurd ⟨_, ‹_›⟩ hd
    · exact h
    · cases h

theorem isTrue_of_classifyThrough (h : (classifyThrough g e a).result = .ok (some r)) :
    (junctionOf a).isTrue = true := by
  by_contra hnone
  unfold classifyThrough at h
  rw [Bool.not_eq_true] at hnone
  simp only [hnone, Bool.not_false, if_true] at h
  cases h

theorem junction?_classifyDirect (kind : DirectKind) :
    (classifyDirect g e a kind).junction? = none := by
  unfold classifyDirect along junction?
  dsimp only
  split
  · rename_i hs
    split at hs <;> cases hs
  · rfl

theorem junction_of_classifyAssociation {junction : Value}
    (h : (classifyAssociation g e a).result = .ok (some r)) (hj : r.junction? = some junction) :
    junction = junctionOf a ∧ (junctionOf a).isTrue = true := by
  unfold classifyAssociation at h
  split at h
  · cases h
    rw [junction?_classifyDirect] at hj
    cases hj
  · obtain ⟨_, _, rfl⟩ := shape_of_classifyThrough h
    exact ⟨(Option.some.inj hj).symm, isTrue_of_classifyThrough h⟩
  · cases h

theorem declaredKind?_of_junction {junction : Value}
    (h : (classifyAssociation g e a).result = .ok (some r)) (hj : r.junction? = some junction) :
    declaredKind? a.kind = some .manyToMany := by
  unfold classifyAssociation at h
  split at h
  · cases h
    rw [junction?_classifyDirect] at hj
    cases hj
  · rename_i c hdirect hc
    cases c with
    | direct kind => exact absurd rfl (hdirect kind)
    | manyToMany => exact hc
    | selfReference => exact absurd hc (declaredKind?_ne_selfReference _)
  · cases h

theorem along_of_classifyAssociation (h : (classifyAssociation g e a).result = .ok (some r)) :
    ∃ shape, r = along e a shape := by
  obtain ⟨kind, _, rfl⟩ | ⟨_, _, _, rfl⟩ := classifyAssociation_cases h
  · exact ⟨_, rfl⟩
  · exact ⟨_, rfl⟩

section Totality

/-- Classifying stops at nothing: what cannot be classified is skipped. -/
theorem exists_classifyAssociation (g : Graph) (e : Entity) (a : Association) :
    ∃ found, (classifyAssociation g e a).result = .ok found := by
  unfold classifyAssociation
  split
  · exact ⟨_, rfl⟩
  · unfold classifyThrough
    dsimp only
    split
    · exact ⟨_, rfl⟩
    · split
      · exact ⟨_, rfl⟩
      · exact ⟨_, rfl⟩
  · exact ⟨_, rfl⟩

theorem exists_classifyEach (g : Graph) (e : Entity) :
    (as : List Association) → ∃ rs, (classifyEach g e as).result = .ok rs
  | [] => ⟨[], rfl⟩
  | a :: as => by
    obtain ⟨found, hfound⟩ := exists_classifyAssociation g e a
    obtain ⟨rs, hrs⟩ := exists_classifyEach g e as
    exact ⟨_, Logged.result_bind_eq_ok.mpr
      ⟨found, hfound, Logged.result_bind_eq_ok.mpr ⟨rs, hrs, rfl⟩⟩⟩

theorem exists_ofEntities (g : Graph) :
    (es : List Entity) → ∃ rs, (ofEntities g es).result = .ok rs
  | [] => ⟨[], rfl⟩
  | e :: es => by
    obtain ⟨own, hown⟩ := exists_classifyEach g e e.associations
    obtain ⟨rs, hrs⟩ := exists_ofEntities g es
    exact ⟨_, Logged.result_bind_eq_ok.mpr
      ⟨own, hown, Logged.result_bind_eq_ok.mpr ⟨rs, hrs, rfl⟩⟩⟩

theorem exists_classify (he : e ∈ g.entities) : ∃ rs, (classify g e.name).result = .ok rs ∧
    ∀ r, r ∈ rs ↔ ∃ a ∈ e.associations, (classifyAssociation g e a).result = .ok (some r) := by
  obtain ⟨rs, hrs⟩ := exists_classifyEach g e e.associations
  have hfound : g.require e.name = .ok e :=
    Graph.require_eq_ok.mpr (Graph.find?_eq_some.mpr ⟨he, rfl⟩)
  exact ⟨rs, Logged.result_bind_eq_ok.mpr ⟨e, hfound, hrs⟩, fun r => mem_classifyEach hrs⟩

def IsGivenBy (g : Graph) (e : Entity) (a : Association) (r : Relationship) : Prop :=
  (classifyAssociation g e a).result = .ok (some r) ∧
    ∃ rs, (classify g e.name).result = .ok rs ∧ r ∈ rs

theorem isGivenBy_of_mem (he : e ∈ g.entities) (ha : a ∈ e.associations)
    (h : (classifyAssociation g e a).result = .ok (some r)) : IsGivenBy g e a r := by
  obtain ⟨rs, hrs, hmem⟩ := exists_classify he
  exact ⟨h, rs, hrs, (hmem r).mpr ⟨a, ha, h⟩⟩

end Totality

theorem keys_classifyDirect (kind : DirectKind) :
    (classifyDirect g e a kind).cardinality ≠ .manyToMany ∧
      (classifyDirect g e a kind).ownerKey = (directKeys g e a kind).1 ∧
      (classifyDirect g e a kind).relatedKey = (directKeys g e a kind).2 := by
  unfold classifyDirect along
  dsimp only
  split
  · exact ⟨nofun, rfl, rfl⟩
  · exact ⟨nofun, rfl, rfl⟩

theorem foreignKey_texts (h : (classifyAssociation g e a).result = .ok (some r)) :
    ∃ parts : List String, r.foreignKey = parts.map .text := by
  obtain ⟨kind, _, rfl⟩ | ⟨_, _, _, rfl⟩ := classifyAssociation_cases h
  · unfold classifyDirect along
    dsimp only
    split
    · exact ⟨_, rfl⟩
    · exact ⟨_, rfl⟩
  · exact ⟨[(junctionColumns e a).1], rfl⟩

end Relationship

end SchemaJoins
