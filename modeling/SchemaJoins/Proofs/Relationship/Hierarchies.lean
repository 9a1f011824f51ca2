import SchemaJoins.Proofs.Data.Entries
import SchemaJoins.Proofs.Data.First
import SchemaJoins.Proofs.Data.Steps
import SchemaJoins.Proofs.Join.Conditions
import SchemaJoins.Proofs.Relationship.Accounting

/-! # The hierarchies of an entity

Each relationship of an entity with itself is reported as one hierarchy. The pattern
is decided when the association is classified, and the fields that play a role in it
are looked up again when it is reported; they are there, since the entity is the same.
-/

namespace SchemaJoins

open Schema

namespace Hierarchy

variable {g : Graph} {e : Entity} {a : Association} {r : Relationship} {rs : List Relationship}
  {key : List String}

section Patterns

def IsParentKey (key : List String) : Prop := key = ["parent_id"] ∨ key = ["parent"]

def HasBounds (e : Entity) (bounds : String × String) : Prop :=
  bounds.1 ∈ e.fieldNames ∧ bounds.2 ∈ e.fieldNames

theorem isParentKey_iff : isParentKey key = true ↔ IsParentKey key := by
  unfold isParentKey IsParentKey
  split
  · simp [parentColumns]
  · rename_i hnone
    exact iff_of_false nofun fun h => h.elim (hnone _) (hnone _)

theorem hasField_iff {name : String} : e.hasField name = true ↔ name ∈ e.fieldNames :=
  List.contains_iff_mem

theorem hasBounds_iff (bounds : String × String) :
    (e.hasField bounds.1 && e.hasField bounds.2) = true ↔ HasBounds e bounds := by
  rw [Bool.and_eq_true, hasField_iff, hasField_iff, HasBounds]

theorem bounds?_eq_some_iff {bounds : String × String} :
    bounds? e = some bounds ↔ IsFirst (HasBounds e) boundPairs bounds :=
  find?_eq_some_iff_isFirst fun pair _ => hasBounds_iff pair

theorem pathField?_eq_some_iff {field : String} :
    pathField? e = some field ↔ IsFirst (· ∈ e.fieldNames) pathFields field :=
  find?_eq_some_iff_isFirst fun _ _ => hasField_iff

theorem isSome_bounds?_iff : (bounds? e).isSome = true ↔ ∃ pair ∈ boundPairs, HasBounds e pair := by
  simp only [Option.isSome_iff_exists, bounds?_eq_some_iff, exists_isFirst_iff]

theorem isSome_pathField?_iff :
    (pathField? e).isSome = true ↔ ∃ field ∈ pathFields, field ∈ e.fieldNames := by
  simp only [Option.isSome_iff_exists, pathField?_eq_some_iff, exists_isFirst_iff]

/-- The pattern is the first that fits the key of a self reference and the fields. -/
structure IsPattern (e : Entity) (key : List String) (pattern : HierarchyPattern) : Prop where
  adjacencyList : pattern = .adjacencyList ↔ IsParentKey key
  nestedSet : pattern = .nestedSet ↔
    ¬ IsParentKey key ∧ ∃ pair ∈ boundPairs, HasBounds e pair
  materializedPath : pattern = .materializedPath ↔
    ¬ IsParentKey key ∧ (¬ ∃ pair ∈ boundPairs, HasBounds e pair) ∧
      ∃ field ∈ pathFields, field ∈ e.fieldNames
  generic : pattern = .generic ↔
    ¬ IsParentKey key ∧ (¬ ∃ pair ∈ boundPairs, HasBounds e pair) ∧
      ¬ ∃ field ∈ pathFields, field ∈ e.fieldNames

theorem isPattern_detect (e : Entity) (key : List String) : IsPattern e key (detect e key) := by
  unfold detect
  by_cases hparent : IsParentKey key
  · rw [if_pos (isParentKey_iff.mpr hparent)]
    constructor <;> simp [hparent]
  · rw [if_neg (mt isParentKey_iff.mp hparent)]
    by_cases hbounds : ∃ pair ∈ boundPairs, HasBounds e pair
    · rw [if_pos (isSome_bounds?_iff.mpr hbounds)]
      constructor <;> simp only [hparent, hbounds] <;> simp
    · rw [if_neg (mt isSome_bounds?_iff.mp hbounds)]
      by_cases hpath : ∃ field ∈ pathFields, field ∈ e.fieldNames
      · rw [if_pos (isSome_pathField?_iff.mpr hpath)]
        constructor <;> simp only [hparent, hbounds, hpath] <;> simp
      · rw [if_neg (mt isSome_pathField?_iff.mp hpath)]
        constructor <;> simp only [hparent, hbounds, hpath] <;> simp

end Patterns

section Reports

/-- The fields that are reported for a pattern. Bounds and path are fields of the entity,
the first ones that it has. -/
inductive HasRoles (e : Entity) (key : List String) :
    HierarchyPattern → List (String × Value) → Prop where
  | adjacencyList {column : String} : key = [column] →
      HasRoles e key .adjacencyList [("parent_field", .text column)]
  | nestedSet {l r : String} : IsFirst (HasBounds e) boundPairs (l, r) →
      HasRoles e key .nestedSet [("left_field", .text l), ("right_field", .text r)]
  | materializedPath {field : String} : IsFirst (· ∈ e.fieldNames) pathFields field →
      HasRoles e key .materializedPath [("path_field", .text field)]
  | generic : HasRoles e key .generic [("foreign_key", .text (",".intercalate key))]

theorem exists_rolesOf (e : Entity) (key : List String) :
    ∃ roles, rolesOf e (key.map .text) (detect e key) = .ok roles ∧
      HasRoles e key (detect e key) roles := by
  have hpattern := isPattern_detect e key
  cases h : detect e key with
  | adjacencyList =>
    obtain rfl | rfl := hpattern.adjacencyList.mp h
    · exact ⟨_, rfl, .adjacencyList rfl⟩
    · exact ⟨_, rfl, .adjacencyList rfl⟩
  | nestedSet =>
    obtain ⟨⟨l, r⟩, hbounds⟩ := exists_isFirst_iff.mpr (hpattern.nestedSet.mp h).2
    refine ⟨_, ?_, .nestedSet hbounds⟩
    rw [rolesOf, bounds?_eq_some_iff.mpr hbounds]
  | materializedPath =>
    obtain ⟨field, hfield⟩ := exists_isFirst_iff.mpr (hpattern.materializedPath.mp h).2.2
    refine ⟨_, ?_, .materializedPath hfield⟩
    rw [rolesOf, pathField?_eq_some_iff.mpr hfield]
    rfl
  | generic =>
    refine ⟨_, ?_, .generic⟩
    rw [rolesOf, Value.joinTexts_texts]
    rfl

/-- The hierarchy is the one to report for a self reference whose columns are `key`. -/
structure IsReportFor (e : Entity) (r : Relationship) (key : List String) (h : Hierarchy) :
    Prop where
  entity : h.entity = e.name
  association : h.association = r.name
  shape : ∃ declared ownerKey relatedKey,
    r.shape = .selfReference declared h.pattern ownerKey relatedKey ∧
      key = if declared = .belongsTo then ownerKey else relatedKey
  pattern : IsPattern e key h.pattern
  roles : HasRoles e key h.pattern h.roles
  traversal : h.toValue.get? "traversal" = .ok (some (.text h.pattern.traversal.name))

theorem referenceKey_eq (kind : DirectKind) (ownerKey relatedKey : List String) :
    Relationship.referenceKey kind ownerKey relatedKey =
      if kind = .belongsTo then ownerKey else relatedKey := by
  cases kind <;> rfl

theorem exists_describe?_classifyDirect (kind : DirectKind) (hself : a.relatedEntity = e.name) :
    ∃ h, describe? e (Relationship.classifyDirect g e a kind) = .ok (some h) ∧
      ∃ key, IsReportFor e (Relationship.classifyDirect g e a kind) key h := by
  rcases hkeys : Relationship.directKeys g e a kind with ⟨ownerKey, relatedKey⟩
  let key := Relationship.referenceKey kind ownerKey relatedKey
  have hr : Relationship.classifyDirect g e a kind =
      Relationship.along e a (.selfReference kind (detect e key) ownerKey relatedKey) := by
    rw [Relationship.classifyDirect, hkeys]
    exact congrArg _ (if_pos hself)
  obtain ⟨roles, hroles, hhas⟩ := exists_rolesOf e key
  rw [hr]
  refine ⟨_, bind_eq_ok.mpr ⟨roles, hroles, rfl⟩, key, ?_⟩
  exact ⟨rfl, rfl, ⟨kind, ownerKey, relatedKey, rfl, referenceKey_eq ..⟩, isPattern_detect e key,
    hhas, Value.get?_record _ _⟩

theorem describe?_of_not_isSelfReference (h : r.isSelfReference = false) :
    describe? e r = .ok none := by
  unfold describe?
  split
  · rename_i hs
    rw [Relationship.isSelfReference, Relationship.cardinality, hs] at h
    cases h
  · rfl

theorem exists_describe? (h : (Relationship.classifyAssociation g e a).result = .ok (some r))
    (hself : r.isSelfReference = true) :
    ∃ hierarchy, describe? e r = .ok (some hierarchy) ∧ ∃ key, IsReportFor e r key hierarchy := by
  obtain ⟨kind, _, rfl⟩ | ⟨_, _, _, rfl⟩ := Relationship.classifyAssociation_cases h
  · rw [Relationship.isSelfReference, Relationship.cardinality_classifyDirect] at hself
    split at hself
    · exact exists_describe?_classifyDirect kind ‹_›
    · cases hself
  · cases hself

theorem exists_ofRelationships (h : ∀ r ∈ rs, r.isSelfReference = true → ∃ hierarchy,
      describe? e r = .ok (some hierarchy) ∧ ∃ key, IsReportFor e r key hierarchy) :
    ∃ hierarchies, ofRelationships e rs = .ok hierarchies ∧
      List.Forall₂ (fun r hierarchy => ∃ key, IsReportFor e r key hierarchy)
        (rs.filter (·.isSelfReference)) hierarchies := by
  induction rs with
  | nil => exact ⟨[], rfl, .nil⟩
  | cons r rs ih =>
    obtain ⟨hr, hrs⟩ := List.forall_mem_cons.mp h
    obtain ⟨others, hothers, hall⟩ := ih hrs
    cases hself : r.isSelfReference with
    | false =>
      refine ⟨others, ?_, ?_⟩
      · rw [ofRelationships, describe?_of_not_isSelfReference hself, hothers]
        rfl
      · rwa [List.filter_cons_of_neg (by simp [hself])]
    | true =>
      obtain ⟨hierarchy, hdescribed, hreport⟩ := hr hself
      refine ⟨hierarchy :: others, ?_, ?_⟩
      · rw [ofRelationships, hdescribed, hothers]
        rfl
      · rw [List.filter_cons_of_pos hself]
        exact .cons hreport hall

/-- Reporting the hierarchies of an entity always succeeds. There is one report for each
self reference, in the order of the relationships. -/
theorem hierarchies_reported (he : e ∈ g.entities) : ∃ rs hierarchies,
    (Relationship.classify g e.name).result = .ok rs ∧ ofRelationships e rs = .ok hierarchies ∧
    List.Forall₂ (fun r hierarchy => ∃ key, IsReportFor e r key hierarchy)
      (rs.filter (·.isSelfReference)) hierarchies := by
  obtain ⟨rs, hrs, hmem⟩ := Relationship.exists_classify he
  obtain ⟨hierarchies, hreported, hall⟩ := exists_ofRelationships fun r hr => by
    obtain ⟨a, -, ha⟩ := (hmem r).mp hr
    exact exists_describe? ha
  exact ⟨rs, hierarchies, hrs, hreported, hall⟩

/-- A category with its parent and its children, where the fields for ranges and paths are
there as well. -/
def category : Entity :=
  { name := "Category"
    fields := [{ name := "nested_left" }, { name := "path" }, { name := "left_bound" },
      { name := "nested_right" }, { name := "right_bound" }]
    associations := [
      { name := "parent", kind := "belongs_to", relatedEntity := "Category" },
      { name := "products", kind := "has_many", relatedEntity := "Product" },
      { name := "children", kind := "has_many", relatedEntity := "Category" }] }

def catalogue : Graph := ⟨[category], List.nodup_singleton _⟩

theorem hierarchies_reported_category :
    category ∈ catalogue.entities ∧ ∃ rs hierarchies,
      (Relationship.classify catalogue category.name).result = .ok rs ∧
      ofRelationships category rs = .ok hierarchies ∧
      List.Forall₂ (fun r hierarchy => ∃ key, IsReportFor category r key hierarchy)
        (rs.filter (·.isSelfReference)) hierarchies :=
  ⟨List.mem_singleton_self _, hierarchies_reported (List.mem_singleton_self _)⟩

example : (Relationship.classify catalogue "Category").result.bind (ofRelationships category) =
    .ok [
      { entity := "Category", association := .text "parent", pattern := .adjacencyList
        roles := [("parent_field", .text "parent_id")] },
      { entity := "Category", association := .text "children", pattern := .nestedSet
        roles := [("left_field", .text "left_bound"), ("right_field", .text "right_bound")] }] := by
  rfl

end Reports

end Hierarchy

end SchemaJoins
