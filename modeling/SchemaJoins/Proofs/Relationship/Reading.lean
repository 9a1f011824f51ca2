import SchemaJoins.Proofs.Join.Fitting
import SchemaJoins.Proofs.Relationship.Classified
import SchemaJoins.Proofs.Schema.Reading

/-! # Reading relationships back

A record of a relationship names its cardinality and holds the fields that go with it. What
can be read are exactly the records of well formed relationships, and every relationship that
was read is read back from the record that it is written as.
-/

namespace SchemaJoins

section Enumerations

variable {α : Type} {ofName? : String → Option α} {enumeration : String} {v : Value} {a : α}

theorem Value.member_eq_ok :
    v.member enumeration ofName? = .ok a ↔ ∃ s, v = .text s ∧ ofName? s = some a := by
  constructor
  · intro h
    cases v with
    | text s =>
      rw [Value.member] at h
      cases hs : ofName? s with
      | none =>
        rw [hs] at h
        cases h
      | some b =>
        rw [hs] at h
        cases h
        exact ⟨s, rfl, hs⟩
    | _ => cases h
  · rintro ⟨s, rfl, hs⟩
    rw [Value.member, hs]

theorem Cardinality.ofValue_eq_ok {c : Cardinality} :
    Cardinality.ofValue v = .ok c ↔ v = .text c.name := by
  refine ⟨fun h => ?_, fun h => h ▸ c.ofValue_name⟩
  obtain ⟨s, rfl, hs⟩ := Value.member_eq_ok.mp h
  have hname := List.find?_some hs
  rw [beq_iff_eq.mp hname]

theorem HierarchyPattern.ofValue_eq_ok {p : HierarchyPattern} :
    HierarchyPattern.ofValue v = .ok p ↔ v = .text p.name := by
  constructor
  · intro h
    obtain ⟨s, rfl, hs⟩ := Value.member_eq_ok.mp h
    have hname := List.find?_some hs
    rw [beq_iff_eq.mp hname]
  · rintro rfl
    cases p <;> rfl

end Enumerations

section Pairs

variable {v left right : Value}

theorem Value.unpackPair_eq_ok :
    v.unpackPair = .ok (left, right) ↔ v.items? = some [left, right] := by
  unfold Value.unpackPair
  rcases v.items? with _ | (_ | ⟨x, _ | ⟨y, _ | ⟨z, xs⟩⟩⟩) <;> simp

end Pairs

namespace Schema

variable {v : Value} {key : List String}

/-- How a key may be written: not at all, as one text, or item by item, each named by how it
is displayed. -/
inductive IsKey : Value → List String → Prop where
  | absent : IsKey .null []
  | single (s : String) : IsKey (.text s) [s]
  | several {v : Value} {items : List Value} : (∀ s, v ≠ .text s) → v.items? = some items →
      IsKey v (items.map Value.display)

theorem keyOf_eq_ok : keyOf v = .ok key ↔ IsKey v key := by
  constructor
  · intro h
    unfold keyOf at h
    split at h
    · cases h
      exact .absent
    · cases h
      exact .single _
    · rename_i hnull htext
      obtain ⟨items, hitems, h⟩ := bind_eq_ok.mp h
      cases h
      exact .several htext (Value.items_eq_ok.mp hitems)
  · rintro (_ | s | ⟨htext, hitems⟩)
    · rfl
    · rfl
    · unfold keyOf
      split
      · cases hitems
      · exact absurd rfl (htext _)
      · rw [Value.items_eq_ok.mpr hitems]
        rfl

theorem isKey_keyValue (key : List String) : IsKey (keyValue key) key :=
  keyOf_eq_ok.mp (keyOf_keyValue key)

end Schema

namespace Relationship

open Schema Export

variable {v name source target : Value} {r : Relationship} {ownerKey relatedKey : List String}
  {fields : Entry} {c : Cardinality} {shape : Shape}

section Records

def HoldsShape (fields : Entry) : Shape → Prop
  | .direct .. => True
  | .manyToMany junction ownerSide relatedSide _ _ =>
      Value.find? fields (.text "junction") = some junction ∧
        ∃ sides, Value.find? fields (.text "junction_keys") = some sides ∧
          sides.items? = some [ownerSide, relatedSide]
  | .selfReference declared pattern _ _ =>
      Value.find? fields (.text "declared") = some (.text (Cardinality.direct declared).name) ∧
        Value.find? fields (.text "pattern") = some (.text pattern.name)

structure IsRecordOf (fields : Entry) (r : Relationship) : Prop where
  cardinality : Value.find? fields (.text "cardinality") = some (.text r.cardinality.name)
  name : Value.find? fields (.text "name") = some r.name
  source : Value.find? fields (.text "source") = some r.source
  target : Value.find? fields (.text "target") = some r.target
  ownerKey : IsKey (said fields "owner_key") r.ownerKey
  relatedKey : IsKey (said fields "related_key") r.relatedKey
  throughPath : IsKey (said fields "through_path") r.throughPath
  shape : HoldsShape fields r.shape

/-- A junction and both of its columns are named, and each of these pairs with one column. A
relationship onto itself leads to the entity that it comes from, and is declared as one that
needs no junction. -/
structure IsWellFormed (r : Relationship) : Prop where
  junction : ∀ junction ownerSide relatedSide ownerColumn relatedColumn,
    r.shape = .manyToMany junction ownerSide relatedSide ownerColumn relatedColumn →
    junction.isTrue = true ∧ ownerSide.isTrue = true ∧ relatedSide.isTrue = true
  columns : r.cardinality = .manyToMany → r.ownerKey.length = 1 ∧ r.relatedKey.length = 1
  ends : r.cardinality = .selfReference → r.source.sameKey r.target = true
  declared : r.cardinality = .selfReference →
    r.effectiveCardinality ∈ [.direct .belongsTo, .direct .hasOne, .direct .hasMany]

end Records

section WellFormed

variable {path : List String}

theorem isWellFormed_direct (kind : DirectKind) :
    IsWellFormed ⟨name, source, target, path, .direct kind ownerKey relatedKey⟩ :=
  ⟨nofun, nofun, nofun, nofun⟩

theorem isWellFormed_manyToMany {junction ownerSide relatedSide : Value}
    {ownerColumn relatedColumn : String} :
    IsWellFormed ⟨name, source, target, path,
      .manyToMany junction ownerSide relatedSide ownerColumn relatedColumn⟩ ↔
      junction.isTrue = true ∧ ownerSide.isTrue = true ∧ relatedSide.isTrue = true := by
  refine ⟨fun h => h.junction _ _ _ _ _ rfl, fun h => ⟨?_, fun _ => ⟨rfl, rfl⟩, nofun, nofun⟩⟩
  rintro _ _ _ _ _ ⟨⟩
  exact h

theorem isWellFormed_selfReference {declared : DirectKind} {pattern : HierarchyPattern} :
    IsWellFormed ⟨name, source, target, path,
      .selfReference declared pattern ownerKey relatedKey⟩ ↔ source.sameKey target = true := by
  refine ⟨fun h => h.ends rfl, fun h => ⟨nofun, nofun, fun _ => h, fun _ => ?_⟩⟩
  cases declared <;> simp [effectiveCardinality]

end WellFormed

section Reading

theorem ontoItself_eq_ok {declared : Cardinality} {pattern : HierarchyPattern} :
    ontoItself name source target declared pattern ownerKey relatedKey = .ok shape ↔
      source.sameKey target = true ∧ ∃ kind, declared = .direct kind ∧
        shape = .selfReference kind pattern ownerKey relatedKey := by
  unfold ontoItself
  by_cases hends : source.sameKey target = true
  · cases declared with
    | direct kind => simp [hends, eq_comm]
    | manyToMany => simp [hends]
    | selfReference => simp [hends]
  · simp [hends]

structure Fits (r : Relationship) (c : Cardinality) (ownerKey relatedKey : List String) : Prop where
  cardinality : r.cardinality = c
  ownerKey : r.ownerKey = ownerKey
  relatedKey : r.relatedKey = relatedKey

theorem shapeOf_eq_ok (path : List String) :
    shapeOf (.map fields) name source target ownerKey relatedKey c = .ok shape ↔
      Fits ⟨name, source, target, path, shape⟩ c ownerKey relatedKey ∧ HoldsShape fields shape ∧
        IsWellFormed ⟨name, source, target, path, shape⟩ := by
  cases c with
  | direct kind =>
    constructor
    · intro h
      cases h
      exact ⟨⟨rfl, rfl, rfl⟩, trivial, isWellFormed_direct kind⟩
    · rintro ⟨⟨hc, rfl, rfl⟩, -, -⟩
      cases shape <;> cases hc
      rfl
  | manyToMany =>
    constructor
    · intro h
      obtain ⟨sides, hsides, h⟩ := bind_eq_ok.mp h
      obtain ⟨⟨ownerSide, relatedSide⟩, hpair, h⟩ := bind_eq_ok.mp h
      obtain ⟨junction, hjunction, h⟩ := bind_eq_ok.mp h
      obtain ⟨hj, ho, hr, ownerColumn, relatedColumn, rfl, rfl, rfl⟩ :=
        throughJunction_eq_ok.mp (mapError_eq_ok.mp h)
      exact ⟨⟨rfl, rfl, rfl⟩, ⟨Value.item_map_eq_ok.mp hjunction, sides,
        Value.item_map_eq_ok.mp hsides, Value.unpackPair_eq_ok.mp hpair⟩,
        isWellFormed_manyToMany.mpr ⟨hj, ho, hr⟩⟩
    · rintro ⟨⟨hc, rfl, rfl⟩, hholds, hformed⟩
      cases shape <;> cases hc
      obtain ⟨hjunction, sides, hsides, hpair⟩ := hholds
      obtain ⟨hj, ho, hr⟩ := isWellFormed_manyToMany.mp hformed
      refine bind_eq_ok.mpr ⟨sides, Value.item_map_eq_ok.mpr hsides, ?_⟩
      refine bind_eq_ok.mpr ⟨_, Value.unpackPair_eq_ok.mpr hpair, ?_⟩
      refine bind_eq_ok.mpr ⟨_, Value.item_map_eq_ok.mpr hjunction, ?_⟩
      exact mapError_eq_ok.mpr
        (throughJunction_eq_ok.mpr ⟨hj, ho, hr, _, _, rfl, rfl, rfl⟩)
  | selfReference =>
    constructor
    · intro h
      obtain ⟨w, hdeclared, h⟩ := bind_eq_ok.mp h
      obtain ⟨declared, hw, h⟩ := bind_eq_ok.mp h
      obtain ⟨w', hpattern, h⟩ := bind_eq_ok.mp h
      obtain ⟨pattern, hw', h⟩ := bind_eq_ok.mp h
      obtain ⟨hends, kind, rfl, rfl⟩ := ontoItself_eq_ok.mp (mapError_eq_ok.mp h)
      obtain rfl := Cardinality.ofValue_eq_ok.mp hw
      obtain rfl := HierarchyPattern.ofValue_eq_ok.mp hw'
      exact ⟨⟨rfl, rfl, rfl⟩,
        ⟨Value.item_map_eq_ok.mp hdeclared, Value.item_map_eq_ok.mp hpattern⟩,
        isWellFormed_selfReference.mpr hends⟩
    · rintro ⟨⟨hc, rfl, rfl⟩, hholds, hformed⟩
      cases shape <;> cases hc
      obtain ⟨hdeclared, hpattern⟩ := hholds
      refine bind_eq_ok.mpr ⟨_, Value.item_map_eq_ok.mpr hdeclared, ?_⟩
      refine bind_eq_ok.mpr ⟨_, Cardinality.ofValue_name _, ?_⟩
      refine bind_eq_ok.mpr ⟨_, Value.item_map_eq_ok.mpr hpattern, ?_⟩
      refine bind_eq_ok.mpr ⟨_, HierarchyPattern.ofValue_eq_ok.mpr rfl, ?_⟩
      exact mapError_eq_ok.mpr
        (ontoItself_eq_ok.mpr ⟨isWellFormed_selfReference.mp hformed, _, rfl, rfl⟩)

/-- A relationship is read of exactly the records of it, if it is well formed. -/
theorem ofValue_eq_ok :
    ofValue v = .ok r ↔ ∃ fields, v = .map fields ∧ IsRecordOf fields r ∧ r.IsWellFormed := by
  constructor
  · intro h
    obtain ⟨w, hitem, h⟩ := bind_eq_ok.mp h
    obtain ⟨fields, rfl, hcardinality⟩ := Value.item_eq_ok.mp hitem
    obtain ⟨c, hw, h⟩ := bind_eq_ok.mp h
    obtain ⟨name, hname, h⟩ := bind_eq_ok.mp h
    obtain ⟨source, hsource, h⟩ := bind_eq_ok.mp h
    obtain ⟨target, htarget, h⟩ := bind_eq_ok.mp h
    obtain ⟨_, ⟨⟩, h⟩ := bind_eq_ok.mp h
    obtain ⟨ownerKey, hownerKey, h⟩ := bind_eq_ok.mp h
    obtain ⟨_, ⟨⟩, h⟩ := bind_eq_ok.mp h
    obtain ⟨relatedKey, hrelatedKey, h⟩ := bind_eq_ok.mp h
    obtain ⟨_, ⟨⟩, h⟩ := bind_eq_ok.mp h
    obtain ⟨throughPath, hpath, h⟩ := bind_eq_ok.mp h
    obtain ⟨shape, hshape, h⟩ := bind_eq_ok.mp h
    obtain ⟨hfits, hholds, hformed⟩ := (shapeOf_eq_ok throughPath).mp hshape
    cases h
    refine ⟨fields, rfl, ⟨?_, Value.item_map_eq_ok.mp hname, Value.item_map_eq_ok.mp hsource,
      Value.item_map_eq_ok.mp htarget, ?_, ?_, keyOf_eq_ok.mp hpath, hholds⟩, hformed⟩
    · rw [hfits.cardinality, ← Cardinality.ofValue_eq_ok.mp hw]
      exact hcardinality
    · rw [hfits.ownerKey]
      exact keyOf_eq_ok.mp hownerKey
    · rw [hfits.relatedKey]
      exact keyOf_eq_ok.mp hrelatedKey
  · rintro ⟨fields, rfl, hrecord, hformed⟩
    have hshape := (shapeOf_eq_ok r.throughPath).mpr ⟨⟨rfl, rfl, rfl⟩, hrecord.shape, hformed⟩
    refine bind_eq_ok.mpr ⟨_, Value.item_map_eq_ok.mpr hrecord.cardinality, ?_⟩
    refine bind_eq_ok.mpr ⟨_, Cardinality.ofValue_name _, ?_⟩
    refine bind_eq_ok.mpr ⟨_, Value.item_map_eq_ok.mpr hrecord.name, ?_⟩
    refine bind_eq_ok.mpr ⟨_, Value.item_map_eq_ok.mpr hrecord.source, ?_⟩
    refine bind_eq_ok.mpr ⟨_, Value.item_map_eq_ok.mpr hrecord.target, ?_⟩
    refine bind_eq_ok.mpr ⟨_, rfl, bind_eq_ok.mpr ⟨_, keyOf_eq_ok.mpr hrecord.ownerKey, ?_⟩⟩
    refine bind_eq_ok.mpr ⟨_, rfl, bind_eq_ok.mpr ⟨_, keyOf_eq_ok.mpr hrecord.relatedKey, ?_⟩⟩
    refine bind_eq_ok.mpr ⟨_, rfl, bind_eq_ok.mpr ⟨_, keyOf_eq_ok.mpr hrecord.throughPath, ?_⟩⟩
    exact bind_eq_ok.mpr ⟨_, hshape, rfl⟩

end Reading

section Writing

def written (r : Relationship) : List (String × Value) :=
  [("cardinality", .text r.cardinality.name), ("name", r.name), ("source", r.source),
    ("target", r.target), ("owner_key", keyValue r.ownerKey),
    ("related_key", keyValue r.relatedKey), ("through_path", keyValue r.throughPath)] ++
    shapeFields r.shape

theorem isRecordOf_written (r : Relationship) :
    IsRecordOf (r.written.map fun (k, w) => (.text k, w)) r := by
  constructor
  · exact Value.find?_record r.written _
  · exact Value.find?_record r.written _
  · exact Value.find?_record r.written _
  · exact Value.find?_record r.written _
  · rw [said, Value.find?_record]
    exact isKey_keyValue r.ownerKey
  · rw [said, Value.find?_record]
    exact isKey_keyValue r.relatedKey
  · rw [said, Value.find?_record]
    exact isKey_keyValue r.throughPath
  · obtain ⟨name, source, target, path, shape⟩ := r
    cases shape with
    | direct kind ownerKey relatedKey => trivial
    | manyToMany junction ownerSide relatedSide ownerColumn relatedColumn =>
      exact ⟨Value.find?_record _ _, _, Value.find?_record _ _, rfl⟩
    | selfReference declared pattern ownerKey relatedKey =>
      exact ⟨Value.find?_record _ _, Value.find?_record _ _⟩

theorem ofValue_toValue (h : r.IsWellFormed) : ofValue r.toValue = .ok r :=
  ofValue_eq_ok.mpr ⟨_, rfl, isRecordOf_written r, h⟩

theorem exists_ofValue_iff : (∃ v, ofValue v = .ok r) ↔ r.IsWellFormed := by
  constructor
  · rintro ⟨v, h⟩
    obtain ⟨_, _, _, hformed⟩ := ofValue_eq_ok.mp h
    exact hformed
  · exact fun h => ⟨r.toValue, ofValue_toValue h⟩

/-- What is read of a record is well formed and says what the record says, and it is read
again, with nothing changed, of the record that it is written as. -/
theorem reread_of_ofValue (h : ofValue v = .ok r) :
    ofValue r.toValue = .ok r ∧ r.IsWellFormed ∧
      ∃ fields, v = .map fields ∧ IsRecordOf fields r := by
  obtain ⟨fields, hv, hrecord, hformed⟩ := ofValue_eq_ok.mp h
  exact ⟨ofValue_toValue hformed, hformed, fields, hv, hrecord⟩

/-- Tags of posts through a junction, with a key that is a text, one that is a list with a
number, and no path. -/
def numberedTags : Value := .record [
  ("junction_keys", .tuple [.text "post_id", .int 7]), ("junction", .text "post_tags"),
  ("related_key", .list [.int 5]), ("owner_key", .text "id"), ("through_path", .null),
  ("target", .text "Tag"), ("source", .text "Post"), ("name", .text "tags"),
  ("cardinality", .text "many_to_many")]

def tags : Relationship :=
  ⟨.text "tags", .text "Post", .text "Tag", [],
    .manyToMany (.text "post_tags") (.text "post_id") (.int 7) "id" "5"⟩

theorem reread_of_ofValue_numberedTags :
    ofValue numberedTags = .ok tags ∧ ofValue tags.toValue = .ok tags ∧ tags.IsWellFormed ∧
      ∃ fields, numberedTags = .map fields ∧ IsRecordOf fields tags := by
  have h : ofValue numberedTags = .ok tags := by rfl
  exact ⟨h, reread_of_ofValue h⟩

end Writing

end Relationship

end SchemaJoins
