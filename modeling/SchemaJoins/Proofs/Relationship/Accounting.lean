import Mathlib.Data.List.Forall2
import SchemaJoins.Proofs.Relationship.Classified

/-! # What becomes of each association

Classifying an entity accounts for each of its associations once and in order: an
association gives one relationship, or one line that says that it is skipped. Which
of the two it is, and what the relationship is like, is read off the association and
the keys that result for it.
-/

namespace SchemaJoins.Relationship

open Schema

variable {g : Graph} {e : Entity} {a : Association} {r : Relationship}

section Kinds

def spellings : Cardinality → List String
  | .direct .belongsTo => ["belongs_to", "many_to_one"]
  | .direct .hasOne => ["has_one", "one_to_one"]
  | .direct .hasMany => ["has_many", "one_to_many"]
  | .manyToMany => ["many_to_many"]
  | .selfReference => []

def Declares (kind : String) (c : Cardinality) : Prop := Text.lower kind ∈ spellings c

theorem declaredKind?_eq_some {kind : String} {c : Cardinality} :
    declaredKind? kind = some c ↔ Declares kind c := by
  unfold declaredKind? Declares
  generalize Text.lower kind = s
  constructor
  · intro h
    split at h <;> cases h <;> simp [spellings]
  · intro h
    rcases c with (_ | _ | _) | _ | _
    · rcases List.mem_pair.mp h with rfl | rfl <;> rfl
    · rcases List.mem_pair.mp h with rfl | rfl <;> rfl
    · rcases List.mem_pair.mp h with rfl | rfl <;> rfl
    · obtain rfl := List.mem_singleton.mp h
      rfl
    · cases h

theorem Declares.unique {kind : String} {c d : Cardinality} (hc : Declares kind c)
    (hd : Declares kind d) : c = d :=
  Option.some.inj ((declaredKind?_eq_some.mpr hc).symm.trans (declaredKind?_eq_some.mpr hd))

end Kinds

section Junctions

/-- The junction of an association: the entity that is named, or else the first step
of the path. -/
inductive IsJunction (a : Association) : Value → Prop where
  | named : a.junctionEntity.isTrue = true → IsJunction a a.junctionEntity
  | step {first : String} {rest : List String} : a.junctionEntity.isTrue = false →
      a.throughPath = first :: rest → first ≠ "" → IsJunction a (.text first)

theorem isTrue_text {s : String} : (Value.text s).isTrue = true ↔ s ≠ "" := by
  simp [Value.isTrue]

theorem isJunction_iff {junction : Value} :
    IsJunction a junction ↔ junction = junctionOf a ∧ (junctionOf a).isTrue = true := by
  unfold junctionOf
  constructor
  · rintro (hnamed | ⟨hnone, hpath, hfirst⟩)
    · rw [if_pos hnamed]
      exact ⟨rfl, hnamed⟩
    · rw [hnone, hpath]
      exact ⟨rfl, isTrue_text.mpr hfirst⟩
  · rintro ⟨rfl, htrue⟩
    by_cases hnamed : a.junctionEntity.isTrue = true
    · rw [if_pos hnamed]
      exact .named hnamed
    · rw [if_neg hnamed] at htrue ⊢
      cases hpath : a.throughPath with
      | nil =>
        rw [hpath] at htrue
        cases htrue
      | cons first rest =>
        rw [hpath] at htrue
        exact .step (by simpa using hnamed) hpath (isTrue_text.mp htrue)

/-- The association leads through a junction with a column for each side, and each of
these columns pairs with the only column of a key. -/
structure IsJoined (g : Graph) (e : Entity) (a : Association) (junction : Value)
    (ownerSide relatedSide ownerColumn relatedColumn : String) : Prop where
  junction : IsJunction a junction
  sides : a.junctionKeys.getD (referenceColumn e.name, referenceColumn a.relatedEntity) =
    (ownerSide, relatedSide)
  ownerSide : ownerSide ≠ ""
  relatedSide : relatedSide ≠ ""
  ownerKey : keyOr a.ownerKey e.primaryKey = [ownerColumn]
  relatedKey : keyOr a.relatedKey (relatedPrimaryKey g a) = [relatedColumn]

theorem classifyThrough_of_isJoined {junction : Value}
    {ownerSide relatedSide ownerColumn relatedColumn : String}
    (h : IsJoined g e a junction ownerSide relatedSide ownerColumn relatedColumn) :
    classifyThrough g e a = ⟨.ok (some (along e a (.manyToMany junction (.text ownerSide)
      (.text relatedSide) ownerColumn relatedColumn))), []⟩ := by
  obtain ⟨rfl, hjunction⟩ := isJunction_iff.mp h.junction
  have hshape : throughJunction (.text a.name) (junctionOf a) (.text ownerSide) (.text relatedSide)
      (keyOr a.ownerKey e.primaryKey) (keyOr a.relatedKey (relatedPrimaryKey g a)) =
      .ok (.manyToMany (junctionOf a) (.text ownerSide) (.text relatedSide) ownerColumn
        relatedColumn) :=
    throughJunction_eq_ok.mpr ⟨hjunction, isTrue_text.mpr h.ownerSide,
      isTrue_text.mpr h.relatedSide, ownerColumn, relatedColumn, h.ownerKey, h.relatedKey, rfl⟩
  unfold classifyThrough junctionColumns
  rw [h.sides]
  simp only [hjunction, Bool.not_true, Bool.false_eq_true, if_false, hshape]
  rfl

theorem classifyThrough_of_not_isJoined (h : ∀ junction ownerSide relatedSide ownerColumn
      relatedColumn, ¬ IsJoined g e a junction ownerSide relatedSide ownerColumn relatedColumn) :
    ∃ reason, classifyThrough g e a = ⟨.ok none, [skipped e a reason]⟩ := by
  unfold classifyThrough junctionColumns
  dsimp only
  split
  · exact ⟨_, rfl⟩
  · rename_i hjunction
    split
    · rename_i shape hshape
      obtain ⟨htrue, howner, hrelated, ownerColumn, relatedColumn, hownerKey, hrelatedKey, -⟩ :=
        throughJunction_eq_ok.mp hshape
      have hjoined : IsJoined g e a (junctionOf a)
          (a.junctionKeys.getD (referenceColumn e.name, referenceColumn a.relatedEntity)).1
          (a.junctionKeys.getD (referenceColumn e.name, referenceColumn a.relatedEntity)).2
          ownerColumn relatedColumn :=
        ⟨isJunction_iff.mpr ⟨rfl, htrue⟩, rfl, isTrue_text.mp howner, isTrue_text.mp hrelated,
          hownerKey, hrelatedKey⟩
      exact (h _ _ _ _ _ hjoined).elim
    · exact ⟨_, rfl⟩

theorem classifyAssociation_eq_some_iff (h : Declares a.kind .manyToMany) :
    (classifyAssociation g e a).result = .ok (some r) ↔ ∃ junction x y o t,
      IsJoined g e a junction x y o t ∧
      r = along e a (.manyToMany junction (.text x) (.text y) o t) := by
  have hthrough : classifyAssociation g e a = classifyThrough g e a := by
    unfold classifyAssociation
    rw [declaredKind?_eq_some.mpr h]
  rw [hthrough]
  constructor
  · intro hr
    by_cases hjoined : ∃ junction x y o t, IsJoined g e a junction x y o t
    · obtain ⟨junction, x, y, o, t, hjoined⟩ := hjoined
      rw [classifyThrough_of_isJoined hjoined] at hr
      exact ⟨junction, x, y, o, t, hjoined, (Option.some.inj (Except.ok.inj hr)).symm⟩
    · obtain ⟨_, hskipped⟩ := classifyThrough_of_not_isJoined
        fun _ _ _ _ _ hj => hjoined ⟨_, _, _, _, _, hj⟩
      rw [hskipped] at hr
      cases hr
  · rintro ⟨junction, x, y, o, t, hjoined, rfl⟩
    rw [classifyThrough_of_isJoined hjoined]

end Junctions

section Accounts

/-- The association has a known kind and, if that needs a junction, all that goes with
one. -/
def IsClassifiable (g : Graph) (e : Entity) (a : Association) : Prop :=
  ∃ c, Declares a.kind c ∧ (c = .manyToMany →
    ∃ junction ownerSide relatedSide ownerColumn relatedColumn,
      IsJoined g e a junction ownerSide relatedSide ownerColumn relatedColumn)

structure IsClassified (g : Graph) (e : Entity) (a : Association) (r : Relationship) : Prop where
  name : r.name = .text a.name
  source : r.source = .text e.name
  target : r.target = .text a.relatedEntity
  manyToMany : r.cardinality = .manyToMany ↔ Declares a.kind .manyToMany
  through : r.cardinality = .manyToMany →
    ∃ junction ownerSide relatedSide ownerColumn relatedColumn,
      IsJoined g e a junction ownerSide relatedSide ownerColumn relatedColumn ∧
      r.shape = .manyToMany junction (.text ownerSide) (.text relatedSide) ownerColumn relatedColumn
  selfReference : r.cardinality = .selfReference ↔
    ¬ Declares a.kind .manyToMany ∧ a.relatedEntity = e.name
  direct : ∀ kind, r.cardinality = .direct kind ↔
    Declares a.kind (.direct kind) ∧ a.relatedEntity ≠ e.name
  ownerHolds : Declares a.kind (.direct .belongsTo) → r.foreignKey = r.ownerKey.map .text
  relatedHolds : Declares a.kind (.direct .hasOne) ∨ Declares a.kind (.direct .hasMany) →
    r.foreignKey = r.relatedKey.map .text

inductive IsSkipLine (e : Entity) (a : Association) : String → Prop where
  | unknown : (∀ c, ¬ Declares a.kind c) → IsSkipLine e a
      ("Skipping association " ++ e.name ++ "." ++ a.name ++ ": unknown kind '" ++ a.kind ++ "'")
  | incomplete (reason : String) : Declares a.kind .manyToMany → IsSkipLine e a
      ("Skipping many-to-many " ++ e.name ++ "." ++ a.name ++ ": " ++ reason)

inductive Outcome where
  | classified (r : Relationship)
  | skipped (line : String)

namespace Outcome

def relationship? : Outcome → Option Relationship
  | classified r => some r
  | skipped _ => none

def line? : Outcome → Option String
  | classified _ => none
  | skipped line => some line

end Outcome

/-- The association gives a relationship exactly if it can be classified. -/
inductive HasOutcome (g : Graph) (e : Entity) (a : Association) : Outcome → Prop where
  | classified {r : Relationship} : IsClassifiable g e a → IsClassified g e a r →
      HasOutcome g e a (.classified r)
  | skipped {line : String} : ¬ IsClassifiable g e a → IsSkipLine e a line →
      HasOutcome g e a (.skipped line)

theorem cardinality_classifyDirect (kind : DirectKind) :
    (classifyDirect g e a kind).cardinality =
      if a.relatedEntity = e.name then .selfReference else .direct kind := by
  unfold classifyDirect along
  dsimp only
  split
  · rfl
  · rfl

theorem foreignKey_classifyDirect (kind : DirectKind) :
    (classifyDirect g e a kind).foreignKey = (referenceKey kind (classifyDirect g e a kind).ownerKey
      (classifyDirect g e a kind).relatedKey).map .text := by
  unfold classifyDirect along
  dsimp only
  split
  · rfl
  · rfl

theorem isClassified_classifyDirect {kind : DirectKind} (h : Declares a.kind (.direct kind)) :
    IsClassified g e a (classifyDirect g e a kind) := by
  have hthrough : ¬ Declares a.kind .manyToMany := fun hd => nomatch h.unique hd
  have hkind : ∀ k, Declares a.kind (.direct k) → k = kind :=
    fun k hk => Cardinality.direct.inj (hk.unique h)
  have hdirect := (keys_classifyDirect (g := g) (e := e) (a := a) kind).1
  refine ⟨rfl, rfl, rfl, iff_of_false hdirect hthrough, fun hm => absurd hm hdirect, ?_, ?_, ?_, ?_⟩
  · rw [cardinality_classifyDirect]
    by_cases hself : a.relatedEntity = e.name
    · simp [hself, hthrough]
    · simp [hself]
  · intro k
    rw [cardinality_classifyDirect]
    by_cases hself : a.relatedEntity = e.name
    · simp [hself]
    · rw [if_neg hself, Cardinality.direct.injEq]
      exact ⟨fun hk => ⟨hk ▸ h, hself⟩, fun hk => (hkind k hk.1).symm⟩
  · intro hk
    rw [foreignKey_classifyDirect, ← hkind _ hk]
    rfl
  · rintro (hk | hk)
    · rw [foreignKey_classifyDirect, ← hkind _ hk]
      rfl
    · rw [foreignKey_classifyDirect, ← hkind _ hk]
      rfl

theorem isClassified_through {junction : Value}
    {ownerSide relatedSide ownerColumn relatedColumn : String} (hd : Declares a.kind .manyToMany)
    (h : IsJoined g e a junction ownerSide relatedSide ownerColumn relatedColumn) :
    IsClassified g e a (along e a (.manyToMany junction (.text ownerSide)
      (.text relatedSide) ownerColumn relatedColumn)) := by
  have hother : ∀ kind, ¬ Declares a.kind (.direct kind) := fun kind hk => nomatch hd.unique hk
  refine ⟨rfl, rfl, rfl, iff_of_true rfl hd, ?_, ?_, ?_, ?_, ?_⟩
  · exact fun _ => ⟨_, _, _, _, _, h, rfl⟩
  · exact iff_of_false nofun fun hn => hn.1 hd
  · exact fun kind => iff_of_false nofun fun hn => hother kind hn.1
  · exact fun hk => absurd hk (hother _)
  · rintro (hk | hk)
    · exact absurd hk (hother _)
    · exact absurd hk (hother _)

theorem exists_hasOutcome (g : Graph) (e : Entity) (a : Association) :
    ∃ o, HasOutcome g e a o ∧
      classifyAssociation g e a = ⟨.ok o.relationship?, o.line?.toList⟩ := by
  unfold classifyAssociation
  cases hkind : declaredKind? a.kind with
  | none =>
    have hunknown : ∀ c, ¬ Declares a.kind c := by
      intro c hc
      rw [declaredKind?_eq_some.mpr hc] at hkind
      cases hkind
    exact ⟨.skipped _, .skipped (fun ⟨c, hc, _⟩ => hunknown c hc) (.unknown hunknown), rfl⟩
  | some c =>
    have hdeclared := declaredKind?_eq_some.mp hkind
    cases c with
    | direct kind =>
      exact ⟨.classified _,
        .classified ⟨_, hdeclared, nofun⟩ (isClassified_classifyDirect hdeclared), rfl⟩
    | manyToMany =>
      by_cases hjoined : ∃ junction ownerSide relatedSide ownerColumn relatedColumn,
          IsJoined g e a junction ownerSide relatedSide ownerColumn relatedColumn
      · obtain ⟨_, _, _, _, _, h⟩ := id hjoined
        exact ⟨.classified _, .classified ⟨_, hdeclared, fun _ => hjoined⟩
          (isClassified_through hdeclared h), classifyThrough_of_isJoined h⟩
      · obtain ⟨reason, h⟩ := classifyThrough_of_not_isJoined
          fun _ _ _ _ _ hj => hjoined ⟨_, _, _, _, _, hj⟩
        refine ⟨.skipped _, .skipped ?_ (.incomplete reason hdeclared), h⟩
        rintro ⟨c, hc, hneeds⟩
        exact hjoined (hneeds (hc.unique hdeclared))
    | selfReference => exact absurd hkind (declaredKind?_ne_selfReference _)

theorem exists_outcomes (g : Graph) (e : Entity) : (as : List Association) →
    ∃ outcomes, List.Forall₂ (HasOutcome g e) as outcomes ∧ classifyEach g e as =
      ⟨.ok (outcomes.filterMap Outcome.relationship?), outcomes.filterMap Outcome.line?⟩
  | [] => ⟨[], .nil, rfl⟩
  | a :: as => by
    obtain ⟨o, ho, hone⟩ := exists_hasOutcome g e a
    obtain ⟨outcomes, hall, hrest⟩ := exists_outcomes g e as
    refine ⟨o :: outcomes, .cons ho hall, ?_⟩
    rw [classifyEach, hone, hrest]
    cases o with
    | classified r =>
      show (⟨.ok (r :: _), [] ++ (_ ++ [])⟩ : Logged _) = ⟨.ok (r :: _), _⟩
      rw [List.nil_append, List.append_nil]
      rfl
    | skipped line =>
      show (⟨.ok ([] ++ _), [line] ++ (_ ++ [])⟩ : Logged _) = ⟨.ok _, line :: _⟩
      rw [List.append_nil]
      rfl

/-- Classifying an entity of a graph always succeeds. Each association is accounted for
by one relationship or by one line of warning, in the order of the associations, and
there is nothing else. -/
theorem classify_accounts (he : e ∈ g.entities) :
    ∃ outcomes, List.Forall₂ (HasOutcome g e) e.associations outcomes ∧ classify g e.name =
      ⟨.ok (outcomes.filterMap Outcome.relationship?), outcomes.filterMap Outcome.line?⟩ := by
  obtain ⟨outcomes, hall, heach⟩ := exists_outcomes g e e.associations
  refine ⟨outcomes, hall, ?_⟩
  have hfound : g.require e.name = .ok e :=
    Graph.require_eq_ok.mpr (Graph.find?_eq_some.mpr ⟨he, rfl⟩)
  rw [classify, hfound, ← heach]
  rfl

/-- A person with a reference in capitals, one to a person, two through junctions of
which one is left open, and one of an unknown kind. -/
def person : Entity :=
  { name := "Person"
    associations :=
      [{ name := "team", kind := "BELONGS_TO", relatedEntity := "Team" },
        { name := "mentor", kind := "many_to_one", relatedEntity := "Person" },
        { name := "roles", kind := "Many_To_Many", relatedEntity := "Role",
          throughPath := ["memberships", "role"] },
        { name := "tags", kind := "many_to_many", relatedEntity := "Tag" },
        { name := "badge", kind := "embeds", relatedEntity := "Badge" }] }

def people : Graph := ⟨[person], List.nodup_singleton _⟩

theorem classify_accounts_person :
    person ∈ people.entities ∧ ∃ outcomes,
      List.Forall₂ (HasOutcome people person) person.associations outcomes ∧
      classify people person.name =
        ⟨.ok (outcomes.filterMap Outcome.relationship?), outcomes.filterMap Outcome.line?⟩ :=
  ⟨List.mem_singleton_self _, classify_accounts (List.mem_singleton_self _)⟩

example : (classify people "Person").warnings =
    ["Skipping many-to-many Person.tags: no junction entity reported",
      "Skipping association Person.badge: unknown kind 'embeds'"] := by decide +kernel

end Accounts

end SchemaJoins.Relationship
