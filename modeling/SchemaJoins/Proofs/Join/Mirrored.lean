import Mathlib.Data.List.Zip
import SchemaJoins.Proofs.Join.Conditions
import SchemaJoins.Proofs.Relationship.Accounting

/-! # References declared from both ends

Two entities can declare the same reference, each from its own end. The two ends take the
keys that they leave open from different places, and still their joins pair the same
columns: the conditions of one end are those of the other with left and right exchanged.
-/

namespace SchemaJoins

open Schema Relationship

namespace Relationship

variable {g : Graph} {e f : Entity} {a b : Association} {r s : Relationship}

section Ends

/-- The first entity has one or many of the second one, and the second one belongs to the
first. Both ends name the same key that refers, and leave the key that it refers to open. -/
structure IsInverse (e f : Entity) (a b : Association) : Prop where
  has : Declares a.kind (.direct .hasOne) ∨ Declares a.kind (.direct .hasMany)
  belongs : Declares b.kind (.direct .belongsTo)
  there : a.relatedEntity = f.name
  back : b.relatedEntity = e.name
  sameKey : b.ownerKey = a.relatedKey
  given : a.relatedKey ≠ []
  ownerOpen : a.ownerKey = []
  relatedOpen : b.relatedKey = []

/-- Both entities have many of the other through the same junction. Both leave their keys
open, and they leave the columns of the junction open or name the same ones. -/
structure IsMutual (e f : Entity) (a b : Association) : Prop where
  has : Declares a.kind .manyToMany
  has' : Declares b.kind .manyToMany
  there : a.relatedEntity = f.name
  back : b.relatedEntity = e.name
  junction : junctionOf a = junctionOf b
  keysOpen : a.ownerKey = [] ∧ a.relatedKey = []
  keysOpen' : b.ownerKey = [] ∧ b.relatedKey = []
  columns : a.junctionKeys = none ∧ b.junctionKeys = none ∨
    ∃ x y, a.junctionKeys = some (x, y) ∧ b.junctionKeys = some (y, x)

@[simp] theorem keyOr_nil (default : List String) : keyOr [] default = default := rfl

theorem keyOr_of_ne_nil {key : List String} (h : key ≠ []) (default : List String) :
    keyOr key default = key := by
  rw [keyOr, if_neg (mt List.isEmpty_iff.mp h)]

theorem relatedPrimaryKey_of_mem (he : e ∈ g.entities) (h : a.relatedEntity = e.name) :
    relatedPrimaryKey g a = e.primaryKey := by
  rw [relatedPrimaryKey, Graph.find?_eq_some.mpr ⟨he, h.symm⟩]
  rfl

end Ends

section Inverse

theorem IsInverse.exists_kind (h : IsInverse e f a b) : ∃ kind, IsDirect a kind ∧
    directKeys g e a kind = (e.primaryKey, a.relatedKey) ∧
    ∀ ownerKey relatedKey, referenceKey kind ownerKey relatedKey = relatedKey := by
  have hkeys : (keyOr a.ownerKey e.primaryKey, keyOr a.relatedKey [referenceColumn e.name]) =
      (e.primaryKey, a.relatedKey) := by
    rw [h.ownerOpen, keyOr_nil, keyOr_of_ne_nil h.given]
  obtain hkind | hkind := h.has
  · exact ⟨.hasOne, declaredKind?_eq_some.mpr hkind, hkeys, fun _ _ => rfl⟩
  · exact ⟨.hasMany, declaredKind?_eq_some.mpr hkind, hkeys, fun _ _ => rfl⟩

theorem IsInverse.directKeys_eq (h : IsInverse e f a b) (he : e ∈ g.entities) :
    directKeys g f b .belongsTo = (a.relatedKey, e.primaryKey) := by
  rw [directKeys, h.sameKey, keyOr_of_ne_nil h.given, h.relatedOpen, keyOr_nil,
    relatedPrimaryKey_of_mem he h.back]

theorem IsInverse.exists_ends (h : IsInverse e f a b) (he : e ∈ g.entities) :
    ∃ kind, IsDirect a kind ∧ IsDirect b .belongsTo ∧
      (classifyDirect g e a kind).ownerKey = (classifyDirect g f b .belongsTo).relatedKey ∧
      (classifyDirect g e a kind).relatedKey = (classifyDirect g f b .belongsTo).ownerKey ∧
      (classifyDirect g e a kind).foreignKey = (classifyDirect g f b .belongsTo).foreignKey := by
  obtain ⟨kind, hkind, hkeys, hreference⟩ := h.exists_kind (g := g)
  have hkeys' := h.directKeys_eq he
  obtain ⟨-, howner, hrelated⟩ := keys_classifyDirect (g := g) (e := e) (a := a) kind
  obtain ⟨-, howner', hrelated'⟩ := keys_classifyDirect (g := g) (e := f) (a := b) .belongsTo
  rw [hkeys] at howner hrelated
  rw [hkeys'] at howner' hrelated'
  refine ⟨kind, hkind, declaredKind?_eq_some.mpr h.belongs, howner.trans hrelated'.symm,
    hrelated.trans howner'.symm, ?_⟩
  rw [foreignKey_classifyDirect, foreignKey_classifyDirect, hreference, hrelated, referenceKey,
    howner']

end Inverse

section Mutual

variable {junction : Value} {x y o t : String}

theorem IsMutual.symm (h : IsMutual e f a b) : IsMutual f e b a where
  has := h.has'
  has' := h.has
  there := h.back
  back := h.there
  junction := h.junction.symm
  keysOpen := h.keysOpen'
  keysOpen' := h.keysOpen
  columns := h.columns.imp And.symm fun ⟨x, y, hx, hy⟩ => ⟨y, x, hy, hx⟩

theorem IsMutual.isJoined (h : IsMutual e f a b) (he : e ∈ g.entities) (hf : f ∈ g.entities)
    (hj : IsJoined g e a junction x y o t) : IsJoined g f b junction y x t o where
  junction := by
    rw [isJunction_iff, ← h.junction]
    exact isJunction_iff.mp hj.junction
  sides := by
    have hsides := hj.sides
    obtain ⟨hnone, hnone'⟩ | ⟨x', y', hsome, hsome'⟩ := h.columns
    · rw [hnone, h.there, Option.getD_none, Prod.mk.injEq] at hsides
      rw [hnone', h.back, Option.getD_none, hsides.1, hsides.2]
    · rw [hsome, Option.getD_some, Prod.mk.injEq] at hsides
      rw [hsome', Option.getD_some, hsides.1, hsides.2]
  ownerSide := hj.relatedSide
  relatedSide := hj.ownerSide
  ownerKey := by
    rw [h.keysOpen'.1, keyOr_nil, ← relatedPrimaryKey_of_mem hf h.there, ← hj.relatedKey,
      h.keysOpen.2, keyOr_nil]
  relatedKey := by
    rw [h.keysOpen'.2, keyOr_nil, relatedPrimaryKey_of_mem he h.back, ← hj.ownerKey,
      h.keysOpen.1, keyOr_nil]

theorem IsMutual.exists_of_exists (h : IsMutual e f a b) (he : e ∈ g.entities)
    (hf : f ∈ g.entities) (hr : (classifyAssociation g e a).result = .ok (some r)) :
    ∃ s, (classifyAssociation g f b).result = .ok (some s) := by
  obtain ⟨junction, x, y, o, t, hj, -⟩ := (classifyAssociation_eq_some_iff h.has).mp hr
  exact ⟨_, (classifyAssociation_eq_some_iff h.has').mpr
    ⟨junction, y, x, t, o, h.isJoined he hf hj, rfl⟩⟩

end Mutual

end Relationship

namespace JoinConfig

variable {g : Graph} {e f : Entity} {a b : Association} {r s : Relationship}

/-- Whenever the joins of both relationships are built, the conditions of the second one are
those of the first one with left and right exchanged, in the order that `turn` gives. -/
def AreMirrored (turn : List (Value × Value) → List (Value × Value)) (g : Graph)
    (r s : Relationship) : Prop :=
  ∀ override override' c d, (build g r override).result = .ok c →
    (build g s override').result = .ok d → d.conditions = turn (c.conditions.map Prod.swap)

theorem areMirrored_of_shape {turn : List (Value × Value) → List (Value × Value)}
    (h : conditionsOf s.shape = turn ((conditionsOf r.shape).map Prod.swap)) :
    AreMirrored turn g r s := by
  intro override override' c d hc hd
  rw [conditions_of_build hc, conditions_of_build hd, h]

theorem map_swap_pairs (ownerKey relatedKey : List String) :
    (pairs ownerKey relatedKey).map Prod.swap = pairs relatedKey ownerKey := by
  rw [pairs, pairs, ← List.zip_swap, List.map_map, List.map_map]
  rfl

/-- A reference that is declared from both ends has the same key that refers at both, and
mirrored joins. Associations of many with many through the same junction are classified
together, and then their joins are mirrored in reverse order. -/
theorem joins_mirrored (he : e ∈ g.entities) (hf : f ∈ g.entities) (ha : a ∈ e.associations)
    (hb : b ∈ f.associations) :
    (IsInverse e f a b → ∃ r s, IsGivenBy g e a r ∧ IsGivenBy g f b s ∧
      r.foreignKey = s.foreignKey ∧ HasJoins g r ∧ HasJoins g s ∧ AreMirrored id g r s) ∧
    (IsMutual e f a b →
      ((∃ r, IsGivenBy g e a r) ↔ ∃ s, IsGivenBy g f b s) ∧
      ∀ r s, IsGivenBy g e a r → IsGivenBy g f b s →
        ((junctionOf a).isHashable = true → HasJoins g r ∧ HasJoins g s) ∧
        AreMirrored List.reverse g r s) := by
  constructor
  · intro h
    obtain ⟨kind, hkind, hkind', howner, hrelated, hforeign⟩ := h.exists_ends he
    obtain ⟨hdirect, -⟩ := keys_classifyDirect (g := g) (e := e) (a := a) kind
    obtain ⟨hdirect', -⟩ := keys_classifyDirect (g := g) (e := f) (a := b) .belongsTo
    refine ⟨_, _, isGivenBy_of_mem he ha (classifyAssociation_of_isDirect hkind),
      isGivenBy_of_mem hf hb (classifyAssociation_of_isDirect hkind'), hforeign,
      hasJoins_of_isDirect hkind, hasJoins_of_isDirect hkind', areMirrored_of_shape ?_⟩
    rw [conditionsOf_shape hdirect, conditionsOf_shape hdirect', howner, hrelated, id_eq,
      map_swap_pairs]
  · intro h
    refine ⟨⟨?_, ?_⟩, fun r s hr hs => ⟨fun hj => ⟨?_, ?_⟩, ?_⟩⟩
    · rintro ⟨r, hr⟩
      obtain ⟨s, hs⟩ := h.exists_of_exists he hf hr.1
      exact ⟨s, isGivenBy_of_mem hf hb hs⟩
    · rintro ⟨s, hs⟩
      obtain ⟨r, hr⟩ := h.symm.exists_of_exists hf he hs.1
      exact ⟨r, isGivenBy_of_mem he ha hr⟩
    · exact hasJoins_of_isHashable hr.1 hj
    · exact hasJoins_of_isHashable hs.1 (h.junction ▸ hj)
    · obtain ⟨junction, x, y, o, t, hj, rfl⟩ := (classifyAssociation_eq_some_iff h.has).mp hr.1
      have hj' := h.isJoined he hf hj
      have hs' := (classifyAssociation_eq_some_iff h.has').mpr ⟨_, _, _, _, _, hj', rfl⟩
      cases hs.1.symm.trans hs'
      exact areMirrored_of_shape rfl

def linesOfOrder : Association :=
  { name := "lines", kind := "has_many", relatedEntity := "Line",
    relatedKey := ["order_tenant", "order_number"] }

def orderOfLine : Association :=
  { name := "order", kind := "many_to_one", relatedEntity := "Order",
    ownerKey := ["order_tenant", "order_number"] }

def taxesOfLine : Association :=
  { name := "taxes", kind := "many_to_many", relatedEntity := "Tax",
    junctionEntity := .text "line_taxes" }

def linesOfTax : Association :=
  { name := "lines", kind := "Many_To_Many", relatedEntity := "Line",
    throughPath := ["line_taxes"] }

def order : Entity :=
  { name := "Order", primaryKey := ["tenant_id", "number"], associations := [linesOfOrder] }

def line : Entity := { name := "Line", associations := [orderOfLine, taxesOfLine] }

def tax : Entity := { name := "Tax", primaryKey := ["code"], associations := [linesOfTax] }

def taxedOrders : Graph := ⟨[order, line, tax], by decide⟩

theorem joins_mirrored_taxedOrders :
    (IsInverse order line linesOfOrder orderOfLine ∧
      ∃ r s, IsGivenBy taxedOrders order linesOfOrder r ∧
        IsGivenBy taxedOrders line orderOfLine s ∧ r.foreignKey = s.foreignKey ∧
        HasJoins taxedOrders r ∧ HasJoins taxedOrders s ∧ AreMirrored id taxedOrders r s) ∧
    (IsMutual line tax taxesOfLine linesOfTax ∧
      ∃ r s, IsGivenBy taxedOrders line taxesOfLine r ∧ IsGivenBy taxedOrders tax linesOfTax s ∧
        HasJoins taxedOrders r ∧ HasJoins taxedOrders s ∧
        AreMirrored List.reverse taxedOrders r s) := by
  have horder : order ∈ taxedOrders.entities := List.mem_cons_self
  have hline : line ∈ taxedOrders.entities := List.mem_cons_of_mem _ List.mem_cons_self
  have htax : tax ∈ taxedOrders.entities := by simp [taxedOrders]
  have hinverse : IsInverse order line linesOfOrder orderOfLine :=
    ⟨.inr (declaredKind?_eq_some.mp rfl), declaredKind?_eq_some.mp rfl, rfl, rfl, rfl,
      by decide, rfl, rfl⟩
  have hmutual : IsMutual line tax taxesOfLine linesOfTax :=
    ⟨declaredKind?_eq_some.mp rfl, declaredKind?_eq_some.mp rfl, rfl, rfl, rfl,
      ⟨rfl, rfl⟩, ⟨rfl, rfl⟩, .inl ⟨rfl, rfl⟩⟩
  constructor
  · exact ⟨hinverse, (joins_mirrored horder hline (.head _) (.head _)).1 hinverse⟩
  · obtain ⟨hiff, hall⟩ :=
      (joins_mirrored hline htax (.tail _ (.head _)) (.head _)).2 hmutual
    have hr : IsGivenBy taxedOrders line taxesOfLine (along line taxesOfLine
        (.manyToMany (.text "line_taxes") (.text "line_id") (.text "tax_id") "id" "code")) :=
      isGivenBy_of_mem hline (.tail _ (.head _)) rfl
    obtain ⟨s, hs⟩ := hiff.mp ⟨_, hr⟩
    obtain ⟨hjoins, hmirrored⟩ := hall _ s hr hs
    obtain ⟨hjoin, hjoin'⟩ := hjoins rfl
    exact ⟨hmutual, _, s, hr, hs, hjoin, hjoin', hmirrored⟩

end JoinConfig

end SchemaJoins
