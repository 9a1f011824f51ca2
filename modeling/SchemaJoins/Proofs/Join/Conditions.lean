import SchemaJoins.Join.Build
import SchemaJoins.Proofs.Relationship.Classified
import SchemaJoins.Proofs.Schema.Typed
import SchemaJoins.Schema.Export

/-! # The conditions of a default join

A join without a junction pairs the columns of both keys and stops with the
shorter one. It joins every column exactly when the keys of the association, or
what stands for them, are equally many columns, and at least one.
-/

namespace SchemaJoins

open Schema Relationship

namespace Value

theorem mapM_zipIdx_texts {f : Value × Nat → Except Fault String}
    (hf : ∀ s i, f (.text s, i) = .ok s) (parts : List String) (n : Nat) :
    ((parts.map Value.text).zipIdx n).mapM f = .ok parts := by
  induction parts generalizing n with
  | nil => rfl
  | cons s parts ih =>
    rw [List.map_cons, List.zipIdx_cons, List.mapM_cons, hf, ih]
    rfl

theorem joinTexts_texts (separator : String) (parts : List String) :
    joinTexts separator (parts.map .text) = .ok (separator.intercalate parts) := by
  rw [joinTexts, mapM_zipIdx_texts fun _ _ => rfl]
  rfl

end Value

namespace JoinConfig

variable {g : Graph} {e : Entity} {a : Association} {r : Relationship}
  {asked override : Value} {c : JoinConfig}

def conditionsOf : Shape → List (Value × Value)
  | .direct _ ownerKey relatedKey => pairs ownerKey relatedKey
  | .selfReference _ _ ownerKey relatedKey => pairs ownerKey relatedKey
  | .manyToMany _ ownerSide relatedSide ownerColumn relatedColumn =>
      [(.text ownerColumn, ownerSide), (relatedSide, .text relatedColumn)]

theorem conditions_of_shaped {base : JoinConfig} (h : shaped g r base = .ok c) :
    c.conditions = conditionsOf r.shape := by
  unfold shaped at h
  split at h
  · rename_i hs
    rw [hs, ← Except.ok.inj h, conditionsOf]
  · rename_i hs
    rw [hs, ← Except.ok.inj h, conditionsOf]
  · rename_i junction _ _ _ _ hs
    cases hj : g.findValue? junction with
    | error f => rw [hj] at h; cases h
    | ok found =>
      rw [hj] at h
      rw [hs, ← Except.ok.inj h, conditionsOf]

theorem conditions_of_build (h : (build g r override).result = .ok c) :
    c.conditions = conditionsOf r.shape := by
  obtain ⟨_, _, h⟩ := Logged.result_bind_eq_ok.mp h
  obtain ⟨_, _, h⟩ := Logged.result_bind_eq_ok.mp h
  exact conditions_of_shaped h

theorem exists_shaped (base : JoinConfig)
    (hjunction : ∀ junction, r.junction? = some junction → junction.isHashable = true) :
    ∃ c, shaped g r base = .ok c := by
  unfold shaped
  split
  · exact ⟨_, rfl⟩
  · exact ⟨_, rfl⟩
  · rename_i junction _ _ _ _ hs
    have hhashable := hjunction junction (by simp [junction?, hs])
    obtain ⟨found, hfound⟩ := Graph.exists_findValue?_iff.mpr hhashable
    rw [hfound]
    exact ⟨_, rfl⟩

/-- The kind that is named, in any case of letters, or else the default. -/
def kindNamed (r : Relationship) : Value → JoinKind
  | .text s => (JoinKind.ofName? (Text.lower s)).getD (defaultKind r.effectiveCardinality)
  | _ => defaultKind r.effectiveCardinality

theorem kindNamed_of_not_isTrue (h : asked.isTrue = false) :
    kindNamed r asked = defaultKind r.effectiveCardinality := by
  cases asked with
  | text s =>
    obtain rfl : s = "" := by simpa [Value.isTrue] using h
    rfl
  | _ => rfl

theorem result_requestedKind (h : asked.isTrue = true → asked.HasCase) :
    (requestedKind r asked).result = .ok (kindNamed r asked) := by
  cases hasked : asked.isTrue with
  | false =>
    rw [requestedKind, hasked, kindNamed_of_not_isTrue hasked]
    rfl
  | true =>
    rw [requestedKind, hasked]
    obtain ⟨s, rfl⟩ | ⟨bs, rfl⟩ := h hasked
    · refine Logged.result_bind_eq_ok.mpr ⟨_, rfl, ?_⟩
      rw [Value.member, kindNamed]
      cases JoinKind.ofName? (Text.lower s) <;> rfl
    · rfl

/-- A kind is settled unless what is asked for has no case. Bytes have case, but name no
kind. -/
theorem requestedKind_eq_ok {kind : JoinKind} : (requestedKind r asked).result = .ok kind ↔
    (asked.isTrue = true → asked.HasCase) ∧ kindNamed r asked = kind := by
  constructor
  · intro h
    have hcase : asked.isTrue = true → asked.HasCase := by
      intro hasked
      rw [requestedKind, hasked] at h
      obtain ⟨w, hlowered, _⟩ := Logged.result_bind_eq_ok.mp h
      exact Value.exists_lowered_iff.mp ⟨w, hlowered⟩
    exact ⟨hcase, Except.ok.inj ((result_requestedKind hcase).symm.trans h)⟩
  · rintro ⟨h, rfl⟩
    exact result_requestedKind h

theorem exists_build (asked : Option String) {parts : List String}
    (hkey : r.foreignKey = parts.map .text)
    (hjunction : ∀ junction, r.junction? = some junction → junction.isHashable = true) :
    ∃ c, (build g r ((asked.map .text).getD .null)).result = .ok c := by
  have htext := Value.isOptionalText_iff.mpr ⟨asked, rfl⟩
  have hkind := result_requestedKind (r := r) htext.hasCase
  have hfk : Value.joinTexts "," r.foreignKey = .ok (",".intercalate parts) := by
    rw [hkey, Value.joinTexts_texts]
  obtain ⟨c, hc⟩ := exists_shaped (g := g) _ hjunction
  exact ⟨c, Logged.result_bind_eq_ok.mpr ⟨_, hkind, Logged.result_bind_eq_ok.mpr ⟨_, hfk, hc⟩⟩⟩

def HasJoins (g : Graph) (r : Relationship) : Prop :=
  ∀ asked : Option String, ∃ c, (build g r ((asked.map .text).getD .null)).result = .ok c

theorem hasJoins_of_classifyAssociation (hr : (classifyAssociation g e a).result = .ok (some r))
    (hj : ∀ junction, r.junction? = some junction → junction.isHashable = true) :
    HasJoins g r := by
  obtain ⟨parts, hparts⟩ := foreignKey_texts hr
  exact fun asked => exists_build asked hparts hj

theorem hasJoins_of_isDirect {kind : DirectKind} (h : IsDirect a kind) :
    HasJoins g (classifyDirect g e a kind) := by
  refine hasJoins_of_classifyAssociation (classifyAssociation_of_isDirect h) fun junction hj => ?_
  rw [junction?_classifyDirect] at hj
  cases hj

theorem hasJoins_of_isHashable (hr : (classifyAssociation g e a).result = .ok (some r))
    (hj : (junctionOf a).isHashable = true) : HasJoins g r := by
  refine hasJoins_of_classifyAssociation hr fun junction hjunction => ?_
  rwa [(junction_of_classifyAssociation hr hjunction).1]

/-- The join has a condition, and without a junction it pairs every column of one
key with the column of the other at its position. -/
structure JoinsAllColumns (r : Relationship) (c : JoinConfig) : Prop where
  nonempty : c.conditions ≠ []
  length_owner : r.cardinality ≠ .manyToMany → c.conditions.length = r.ownerKey.length
  length_related : r.cardinality ≠ .manyToMany → c.conditions.length = r.relatedKey.length
  paired : r.cardinality ≠ .manyToMany → ∀ (i : Nat) (o t : String), r.ownerKey[i]? = some o →
    r.relatedKey[i]? = some t → c.conditions[i]? = some (.text o, .text t)

theorem length_pairs (ownerKey relatedKey : List String) :
    (pairs ownerKey relatedKey).length = min ownerKey.length relatedKey.length := by
  rw [pairs, List.length_map, List.length_zip]

theorem conditionsOf_shape (hr : r.cardinality ≠ .manyToMany) :
    conditionsOf r.shape = pairs r.ownerKey r.relatedKey := by
  obtain ⟨_, _, _, _, shape⟩ := r
  cases shape with
  | direct => rfl
  | manyToMany => exact absurd rfl hr
  | selfReference => rfl

theorem joinsAllColumns_iff_length (hr : r.cardinality ≠ .manyToMany)
    (hc : c.conditions = conditionsOf r.shape) :
    JoinsAllColumns r c ↔ 0 < r.ownerKey.length ∧ r.ownerKey.length = r.relatedKey.length := by
  rw [conditionsOf_shape hr] at hc
  -- pairing stops with the shorter key, so equal lengths are what is needed
  have hlength : c.conditions.length = min r.ownerKey.length r.relatedKey.length := by
    rw [hc, length_pairs]
  constructor
  · intro h
    have hpos := List.length_pos_iff.mpr h.nonempty
    have howner := h.length_owner hr
    have hrelated := h.length_related hr
    omega
  · rintro ⟨hpos, hsame⟩
    refine ⟨List.length_pos_iff.mp (by omega), fun _ => by omega, fun _ => by omega, ?_⟩
    intro _ i o t ho ht
    have hzip : (r.ownerKey.zip r.relatedKey)[i]? = some (o, t) :=
      List.getElem?_zip_eq_some.mpr ⟨ho, ht⟩
    rw [hc, pairs, List.getElem?_map, hzip]
    rfl

theorem joinsAllColumns_of_manyToMany (hc : c.conditions = conditionsOf r.shape)
    (hr : r.cardinality = .manyToMany) : JoinsAllColumns r c := by
  refine ⟨?_, fun h => absurd hr h, fun h => absurd hr h, fun h => absurd hr h⟩
  obtain ⟨_, _, _, _, shape⟩ := r
  cases shape with
  | direct => cases hr
  | manyToMany =>
    rw [hc]
    exact List.cons_ne_nil _ _
  | selfReference => cases hr

/-- The number of columns that a direct relationship uses of its owner: without a
key of its own, one that is derived from the name, or the primary key. -/
def ownerColumns (e : Entity) (a : Association) : DirectKind → Nat
  | .belongsTo => max 1 a.ownerKey.length
  | .hasOne | .hasMany =>
      if a.ownerKey.isEmpty then e.primaryKey.length else a.ownerKey.length

/-- The number of columns that a direct relationship uses of its target: the
primary key of an unknown entity is one column. -/
def relatedColumns (g : Graph) (a : Association) : DirectKind → Nat
  | .belongsTo =>
      if a.relatedKey.isEmpty then ((g.find? a.relatedEntity).map (·.primaryKey.length)).getD 1
      else a.relatedKey.length
  | .hasOne | .hasMany => max 1 a.relatedKey.length

def KeysFit (g : Graph) (e : Entity) (a : Association) : Prop :=
  ∀ kind, IsDirect a kind →
    0 < ownerColumns e a kind ∧ ownerColumns e a kind = relatedColumns g a kind

theorem keysFit_iff {kind : DirectKind} (h : IsDirect a kind) :
    KeysFit g e a ↔
      0 < ownerColumns e a kind ∧ ownerColumns e a kind = relatedColumns g a kind := by
  constructor
  · exact fun hfit => hfit kind h
  · intro hfit kind' h'
    obtain rfl : kind = kind' := Cardinality.direct.inj (Option.some.inj (h.symm.trans h'))
    exact hfit

theorem length_keyOr (key default : List String) :
    (keyOr key default).length = if key.isEmpty then default.length else key.length :=
  apply_ite List.length _ _ _

theorem length_keyOr_singleton (key : List String) (column : String) :
    (keyOr key [column]).length = max 1 key.length := by
  rw [length_keyOr]
  cases key <;> simp

theorem length_directKeys (kind : DirectKind) :
    (directKeys g e a kind).1.length = ownerColumns e a kind ∧
      (directKeys g e a kind).2.length = relatedColumns g a kind := by
  cases kind with
  | belongsTo =>
    refine ⟨length_keyOr_singleton _ _, ?_⟩
    rw [directKeys, length_keyOr, relatedColumns, relatedPrimaryKey]
    cases g.find? a.relatedEntity <;> rfl
  | hasOne => exact ⟨length_keyOr _ _, length_keyOr_singleton _ _⟩
  | hasMany => exact ⟨length_keyOr _ _, length_keyOr_singleton _ _⟩

/-- A classified relationship has a default join unless its junction cannot be
looked up, and the join pairs every key column exactly when the keys of the
association that it comes from fit. -/
theorem joinsAllColumns_iff_keysFit {name : String} {rs : List Relationship}
    (hrs : (classify g name).result = .ok rs) (hr : r ∈ rs) :
    ∃ e a, g.find? name = some e ∧ a ∈ e.associations ∧
      (classifyAssociation g e a).result = .ok (some r) ∧
      ((∀ junction, r.junction? = some junction → junction.isHashable = true) →
        ∀ asked : Option String, ∃ c, (build g r ((asked.map .text).getD .null)).result = .ok c) ∧
      ∀ override c, (build g r override).result = .ok c →
        (JoinsAllColumns r c ↔ KeysFit g e a) := by
  obtain ⟨e, he, hmem⟩ := mem_classify hrs
  obtain ⟨a, ha, hclass⟩ := (hmem r).mp hr
  refine ⟨e, a, he, ha, hclass, fun hjunction asked => ?_, fun override c hc => ?_⟩
  · obtain ⟨parts, hparts⟩ := foreignKey_texts hclass
    exact exists_build asked hparts hjunction
  · obtain ⟨kind, hk, rfl⟩ | ⟨hno, _, _, rfl⟩ := classifyAssociation_cases hclass
    · obtain ⟨hdirect, howner, hrelated⟩ := keys_classifyDirect (g := g) (e := e) (a := a) kind
      obtain ⟨hownerColumns, hrelatedColumns⟩ := length_directKeys (g := g) (e := e) (a := a) kind
      rw [joinsAllColumns_iff_length hdirect (conditions_of_build hc), howner, hrelated,
        hownerColumns, hrelatedColumns, keysFit_iff hk]
    · constructor
      · exact fun _ kind hk => absurd hk (hno kind)
      · exact fun _ => joinsAllColumns_of_manyToMany (conditions_of_build hc) rfl

/-- Order lines that refer to an order with a composite key by one column, and to
a product that is not exported. -/
def orderLines : Value :=
  .record [("entities", .list [
    .record [("name", .text "Order"), ("primary_key", Value.texts ["tenant_id", "number"])],
    .record [("name", .text "Line"), ("associations", .list [
      .record [("name", .text "order"), ("kind", .text "belongs_to"),
        ("related_entity", .text "Order")],
      .record [("name", .text "product"), ("kind", .text "belongs_to"),
        ("related_entity", .text "Product")]])]])]

def orderLinesGraph : Graph :=
  .ofEntities [{ name := "Order", primaryKey := ["tenant_id", "number"] },
    { name := "Line", associations := [
      { name := "order", kind := "belongs_to", relatedEntity := "Order" },
      { name := "product", kind := "belongs_to", relatedEntity := "Product" }] }]

def lineToOrder : Relationship :=
  ⟨.text "order", .text "Line", .text "Order", [],
    .direct .belongsTo ["order_id"] ["tenant_id", "number"]⟩

def lineToProduct : Relationship :=
  ⟨.text "product", .text "Line", .text "Product", [], .direct .belongsTo ["product_id"] ["id"]⟩

theorem joinsAllColumns_iff_keysFit_orderLines :
    (classify orderLinesGraph "Line").result = .ok [lineToOrder, lineToProduct] ∧
    lineToProduct ∈ [lineToOrder, lineToProduct] ∧
    ∃ e a, orderLinesGraph.find? "Line" = some e ∧ a ∈ e.associations ∧
      (classifyAssociation orderLinesGraph e a).result = .ok (some lineToProduct) ∧
      ((∀ junction, lineToProduct.junction? = some junction → junction.isHashable = true) →
        ∀ asked : Option String,
          ∃ c, (build orderLinesGraph lineToProduct ((asked.map .text).getD .null)).result =
            .ok c) ∧
      ∀ override c, (build orderLinesGraph lineToProduct override).result = .ok c →
        (JoinsAllColumns lineToProduct c ↔ KeysFit orderLinesGraph e a) :=
  have hrs : (classify orderLinesGraph "Line").result = .ok [lineToOrder, lineToProduct] := rfl
  have hr : lineToProduct ∈ [lineToOrder, lineToProduct] := .tail _ (.head _)
  ⟨hrs, hr, joinsAllColumns_iff_keysFit hrs hr⟩

/-- The default join of an order line leaves out the second key column of the order. -/
theorem not_joinsAllColumns_lineToOrder :
    ¬ ∀ (v : Value) (g : Graph) (name : String) (rs : List Relationship) (r : Relationship)
      (override : Value) (c : JoinConfig),
      (Export.load v).result = .ok g → (classify g name).result = .ok rs → r ∈ rs →
      (build g r override).result = .ok c → JoinsAllColumns r c := by
  intro h
  have hkey : lineToOrder.foreignKey = ["order_id"].map .text := rfl
  obtain ⟨c, hc⟩ := exists_build (g := orderLinesGraph) none hkey nofun
  have hall := h orderLines orderLinesGraph "Line" [lineToOrder, lineToProduct] lineToOrder .null c
    rfl rfl (.head _) hc
  have hlength := hall.length_related nofun
  rw [conditions_of_build hc] at hlength
  exact absurd hlength (by decide)

end JoinConfig

end SchemaJoins
