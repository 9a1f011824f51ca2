import SchemaJoins.Proofs.Schema.Graph

/-! # Typed graphs

Tables, junctions and requested join kinds are kept as they came. A graph is
typed when each of them is a text or nothing; what is derived from them is a text
then.
-/

namespace SchemaJoins

namespace Value

variable {v : Value}

def IsOptionalText (v : Value) : Prop := v = .null ∨ ∃ s, v = .text s

theorem isOptionalText_null : IsOptionalText .null := .inl rfl

theorem isOptionalText_text (s : String) : IsOptionalText (.text s) := .inr ⟨s, rfl⟩

theorem IsOptionalText.exists_text (h : v.IsOptionalText) (hv : v.isTrue = true) :
    ∃ s, v = .text s := by
  obtain rfl | htext := h
  · cases hv
  · exact htext

theorem isOptionalText_iff :
    v.IsOptionalText ↔ ∃ s : Option String, v = (s.map .text).getD .null := by
  constructor
  · rintro (rfl | ⟨s, rfl⟩)
    · exact ⟨none, rfl⟩
    · exact ⟨some s, rfl⟩
  · rintro ⟨_ | s, rfl⟩
    · exact isOptionalText_null
    · exact isOptionalText_text s

def HasCase (v : Value) : Prop := (∃ s, v = .text s) ∨ ∃ bs, v = .bytes bs

theorem IsOptionalText.hasCase (h : v.IsOptionalText) (hv : v.isTrue = true) : v.HasCase :=
  .inl (h.exists_text hv)

theorem exists_lowered_iff {lower : String → String} :
    (∃ w, v.lowered lower = .ok w) ↔ v.HasCase := by
  cases v <;> simp [lowered, HasCase]

end Value

namespace Schema

structure Association.IsTyped (a : Association) : Prop where
  junctionEntity : a.junctionEntity.IsOptionalText
  joinKind : a.joinKind.IsOptionalText

structure Entity.IsTyped (e : Entity) : Prop where
  table : e.table.IsOptionalText
  associations : ∀ a ∈ e.associations, a.IsTyped

namespace Graph

variable {g : Graph} {e x : Entity} {es : List Entity}

def IsTyped (g : Graph) : Prop := ∀ e ∈ g.entities, e.IsTyped

theorem mem_place (h : x ∈ place e es) : x = e ∨ x ∈ es := by
  induction es with
  | nil => exact .inl (List.mem_singleton.mp h)
  | cons y es ih =>
    rw [place] at h
    split at h
    · obtain rfl | h := List.mem_cons.mp h
      · exact .inl rfl
      · exact .inr (List.mem_cons_of_mem _ h)
    · obtain rfl | h := List.mem_cons.mp h
      · exact .inr List.mem_cons_self
      · exact (ih h).imp_right (List.mem_cons_of_mem _)

theorem mem_foldl_add (h : x ∈ (es.foldl add g).entities) : x ∈ es ∨ x ∈ g.entities := by
  induction es generalizing g with
  | nil => exact .inr h
  | cons e es ih =>
    obtain h | h := ih h
    · exact .inl (List.mem_cons_of_mem _ h)
    · obtain rfl | h := mem_place h
      · exact .inl List.mem_cons_self
      · exact .inr h

theorem isTyped_ofEntities (h : ∀ e ∈ es, e.IsTyped) : (ofEntities es).IsTyped := by
  intro e he
  obtain he | he := mem_foldl_add he
  · exact h e he
  · cases he

end Graph

theorem Entity.exists_sourceName {e : Entity} (h : e.table.IsOptionalText) :
    ∃ s, e.sourceName = .text s := by
  unfold Entity.sourceName
  split
  · exact h.exists_text ‹_›
  · exact ⟨e.name, rfl⟩

theorem Entity.IsTyped.isOptionalText_joinKind {e : Entity} (h : e.IsTyped) (name : String) :
    Value.IsOptionalText (((e.association? name).map (·.joinKind)).getD .null) := by
  cases ha : e.association? name with
  | none => exact Value.isOptionalText_null
  | some a => exact (h.associations a (List.mem_of_find?_eq_some ha)).joinKind

end Schema

end SchemaJoins
