import SchemaJoins.Proofs.Join.Conditions
import SchemaJoins.Proofs.Text.Singular

/-! # Columns of a junction

An association that names no columns of its junction takes them from the names of the two
entities. These columns are different unless the names have the same singular. An entity
that leads to itself always gets one column for both sides, and its joins then pair that
column with both keys.
-/

namespace SchemaJoins

open Schema Relationship

namespace Relationship

variable {g : Graph} {e : Entity} {a : Association} {r : Relationship}

theorem referenceColumn_eq_iff {a b : String} :
    referenceColumn a = referenceColumn b ↔ Text.ShareSingular a b := by
  rw [referenceColumn, referenceColumn, String.append_left_inj, Text.singularize_eq_iff]

theorem shape_of_junctionKeys_eq_none (hr : (classifyAssociation g e a).result = .ok (some r))
    (hm : r.cardinality = .manyToMany) (hnone : a.junctionKeys = none) :
    ∃ ownerColumn relatedColumn, r.shape = .manyToMany (junctionOf a)
      (.text (referenceColumn e.name)) (.text (referenceColumn a.relatedEntity))
      ownerColumn relatedColumn := by
  rcases classifyAssociation_cases hr with ⟨kind, -, rfl⟩ | ⟨-, ownerColumn, relatedColumn, rfl⟩
  · exact absurd hm (keys_classifyDirect kind).1
  · refine ⟨ownerColumn, relatedColumn, ?_⟩
    rw [junctionColumns, hnone]
    rfl

end Relationship

namespace JoinConfig

variable {g : Graph} {e : Entity} {a : Association} {r : Relationship} {c : JoinConfig}
  {x y o t column key : Value}

inductive End where
  | owner
  | related

/-- The column of the junction is paired with the key column of an end: the first condition
is that of the owner, the second one that of the related entity. -/
inductive IsPaired (c : JoinConfig) (column : Value) : End → Value → Prop where
  | owner {key : Value} {rest : List (Value × Value)} :
      c.conditions = (key, column) :: rest → IsPaired c column .owner key
  | related {key : Value} {first : Value × Value} :
      c.conditions = [first, (column, key)] → IsPaired c column .related key

/-- Each of the two columns of the junction pairs with exactly one key column. -/
def PairsOnce (c : JoinConfig) (ownerSide relatedSide : Value) : Prop :=
  ∀ column ∈ [ownerSide, relatedSide], ∃! key : End × Value, IsPaired c column key.1 key.2

theorem isPaired_owner_iff (hc : c.conditions = [(o, x), (y, t)]) :
    IsPaired c column .owner key ↔ key = o ∧ column = x := by
  constructor
  · rintro ⟨h⟩
    cases hc.symm.trans h
    exact ⟨rfl, rfl⟩
  · rintro ⟨rfl, rfl⟩
    exact .owner hc

theorem isPaired_related_iff (hc : c.conditions = [(o, x), (y, t)]) :
    IsPaired c column .related key ↔ key = t ∧ column = y := by
  constructor
  · intro h
    cases h with
    | related h =>
      cases hc.symm.trans h
      exact ⟨rfl, rfl⟩
  · rintro ⟨rfl, rfl⟩
    exact .related hc

theorem pairsOnce_iff (hc : c.conditions = [(o, x), (y, t)]) : PairsOnce c x y ↔ x ≠ y := by
  constructor
  · rintro h rfl
    obtain ⟨key, -, hunique⟩ := h x List.mem_cons_self
    have howner := hunique (.owner, o) ((isPaired_owner_iff hc).mpr ⟨rfl, rfl⟩)
    have hrelated := hunique (.related, t) ((isPaired_related_iff hc).mpr ⟨rfl, rfl⟩)
    cases howner.trans hrelated.symm
  · intro hne column hcolumn
    rcases List.mem_pair.mp hcolumn with rfl | rfl
    · refine ⟨(.owner, o), (isPaired_owner_iff hc).mpr ⟨rfl, rfl⟩, ?_⟩
      rintro ⟨_ | _, key⟩ hkey
      · exact congrArg (End.owner, ·) ((isPaired_owner_iff hc).mp hkey).1
      · exact absurd ((isPaired_related_iff hc).mp hkey).2 hne
    · refine ⟨(.related, t), (isPaired_related_iff hc).mpr ⟨rfl, rfl⟩, ?_⟩
      rintro ⟨_ | _, key⟩ hkey
      · exact absurd ((isPaired_owner_iff hc).mp hkey).2 hne.symm
      · exact congrArg (End.related, ·) ((isPaired_related_iff hc).mp hkey).1

/-- The junction gets its columns from the names of its ends. They are different exactly when
the names have different singulars, and only then each of them pairs with exactly one key
column. An entity that leads to itself gets the same column twice. -/
structure HasNamedColumns (g : Graph) (e : Entity) (a : Association) (r : Relationship) :
    Prop where
  shape : ∃ ownerColumn relatedColumn, r.shape = .manyToMany (junctionOf a)
    (.text (referenceColumn e.name)) (.text (referenceColumn a.relatedEntity))
    ownerColumn relatedColumn
  differ_iff : referenceColumn e.name ≠ referenceColumn a.relatedEntity ↔
    ¬ Text.ShareSingular e.name a.relatedEntity
  shareSingular : a.relatedEntity = e.name → Text.ShareSingular e.name a.relatedEntity
  hasJoins : (junctionOf a).isHashable = true → HasJoins g r
  pairsOnce_iff : ∀ override c, (build g r override).result = .ok c →
    (PairsOnce c (.text (referenceColumn e.name)) (.text (referenceColumn a.relatedEntity)) ↔
      ¬ Text.ShareSingular e.name a.relatedEntity)

theorem junctionColumns_differ_iff (hr : IsGivenBy g e a r) (hm : r.cardinality = .manyToMany)
    (hnone : a.junctionKeys = none) : HasNamedColumns g e a r := by
  obtain ⟨ownerColumn, relatedColumn, hshape⟩ := shape_of_junctionKeys_eq_none hr.1 hm hnone
  refine ⟨⟨ownerColumn, relatedColumn, hshape⟩, not_congr referenceColumn_eq_iff, fun hself => ?_,
    hasJoins_of_isHashable hr.1, fun override c hc => ?_⟩
  · rw [← referenceColumn_eq_iff, hself]
  · have hconditions := conditions_of_build hc
    rw [hshape] at hconditions
    rw [pairsOnce_iff hconditions, ← referenceColumn_eq_iff, Ne, Value.text.injEq]

def rolesOfUser : Association :=
  { name := "roles", kind := "many_to_many", relatedEntity := "Roles"
    junctionEntity := .text "user_roles" }

def friendsOfUser : Association :=
  { name := "friends", kind := "many_to_many", relatedEntity := "User"
    junctionEntity := .text "friendships" }

def user : Entity := { name := "User", associations := [rolesOfUser, friendsOfUser] }

def friendly : Graph := ⟨[user], List.nodup_singleton _⟩

def userToRoles : Relationship :=
  along user rolesOfUser
    (.manyToMany (.text "user_roles") (.text "user_id") (.text "role_id") "id" "id")

def userToFriends : Relationship :=
  along user friendsOfUser
    (.manyToMany (.text "friendships") (.text "user_id") (.text "user_id") "id" "id")

theorem isGivenBy_userToRoles : IsGivenBy friendly user rolesOfUser userToRoles :=
  isGivenBy_of_mem List.mem_cons_self List.mem_cons_self rfl

theorem isGivenBy_userToFriends : IsGivenBy friendly user friendsOfUser userToFriends :=
  isGivenBy_of_mem List.mem_cons_self (List.mem_cons_of_mem _ List.mem_cons_self) rfl

theorem junctionColumns_differ_iff_userToRoles :
    IsGivenBy friendly user rolesOfUser userToRoles ∧ userToRoles.cardinality = .manyToMany ∧
    rolesOfUser.junctionKeys = none ∧
    HasNamedColumns friendly user rolesOfUser userToRoles :=
  ⟨isGivenBy_userToRoles, rfl, rfl, junctionColumns_differ_iff isGivenBy_userToRoles rfl rfl⟩

/-- The friends of a user are joined through the same column twice. -/
theorem not_junctionColumns_differ_userToFriends :
    ¬ ∀ (g : Graph) (e : Entity) (a : Association) (r : Relationship)
      (junction ownerSide relatedSide : Value) (ownerColumn relatedColumn : String),
      IsGivenBy g e a r → a.junctionKeys = none →
      r.shape = .manyToMany junction ownerSide relatedSide ownerColumn relatedColumn →
      ownerSide ≠ relatedSide := by
  intro h
  exact h friendly user friendsOfUser userToFriends _ _ _ _ _ isGivenBy_userToFriends rfl rfl rfl

end JoinConfig

end SchemaJoins
