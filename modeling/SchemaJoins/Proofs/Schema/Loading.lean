import Mathlib.Data.List.Induction
import SchemaJoins.Proofs.Data.Faults
import SchemaJoins.Proofs.Schema.Reading

/-! # Loading an export

Every value is loaded or refused as an export. An entry that cannot be read stops
with a fault about a value, which is told as a fault of the export. What is loaded
has the last entity of each name, and there is a warning for each entry whose name
came before.
-/

namespace SchemaJoins

variable {α β : Type} {x : Except Fault α}

def StopsAtValues (x : Except Fault α) : Prop := ¬ StopsWith (fun f => f.isAboutValue = false) x

namespace StopsAtValues

theorem ok (a : α) : StopsAtValues (.ok a) := not_stopsWith_ok a

theorem error {f : Fault} (h : f.isAboutValue = true) :
    StopsAtValues (.error f : Except Fault α) := by
  rw [StopsAtValues, stopsWith_error, h]
  nofun

theorem bind {next : α → Except Fault β} (hx : StopsAtValues x)
    (hnext : ∀ a, StopsAtValues (next a)) : StopsAtValues (x >>= next) :=
  not_stopsWith_bind hx fun a _ => hnext a

theorem mapM {step : α → Except Fault β} {xs : List α} (h : ∀ a, StopsAtValues (step a)) :
    StopsAtValues (xs.mapM step) := not_stopsWith_mapM fun a _ => h a

end StopsAtValues

namespace Value

theorem stopsAtValues_get? (v : Value) (key : String) : StopsAtValues (v.get? key) := by
  refine .bind ?_ fun _ => .ok _
  cases v with
  | map es => exact .ok es
  | _ => exact .error rfl

theorem stopsAtValues_getOrNull (v : Value) (key : String) : StopsAtValues (v.getOrNull key) :=
  .bind (stopsAtValues_get? v key) fun _ => .ok _

theorem stopsAtValues_item (v : Value) (key : String) : StopsAtValues (v.item key) := by
  cases v with
  | map es =>
    rw [item]
    cases find? es (.text key) with
    | none => exact .error rfl
    | some w => exact .ok w
  | _ => exact .error rfl

theorem stopsAtValues_itemAt (v : Value) (position : Nat) : StopsAtValues (v.itemAt position) := by
  unfold itemAt
  dsimp only
  split
  case h_6 => exact .error rfl
  all_goals
    split
    · exact .ok _
    · exact .error rfl

theorem stopsAtValues_items (v : Value) : StopsAtValues v.items := by
  rw [items]
  cases v.items? with
  | none => exact .error rfl
  | some xs => exact .ok xs

end Value

namespace Schema

open Value

theorem stopsAtValues_keyOf (v : Value) : StopsAtValues (keyOf v) := by
  cases v with
  | null => exact .ok _
  | text s => exact .ok _
  | _ => exact .bind (stopsAtValues_items _) fun _ => .ok _

theorem Field.stopsAtValues_ofValue (v : Value) : StopsAtValues (ofValue v) := by
  refine .bind (stopsAtValues_item v _) fun _ => .bind (stopsAtValues_get? v _) fun _ => ?_
  exact .bind (stopsAtValues_get? v _) fun _ => .bind (stopsAtValues_get? v _) fun _ => .ok _

theorem Association.stopsAtValues_junctionKeysOf (v : Value) :
    StopsAtValues (junctionKeysOf v) := by
  unfold junctionKeysOf
  split
  · exact .bind (stopsAtValues_itemAt v 0) fun _ => .bind (stopsAtValues_itemAt v 1) fun _ => .ok _
  · exact .ok none

theorem Association.stopsAtValues_ofValue (v : Value) : StopsAtValues (ofValue v) := by
  refine .bind (stopsAtValues_getOrNull v _) fun _ => .bind (stopsAtValues_item v _) fun _ => ?_
  refine .bind (stopsAtValues_item v _) fun _ => .bind (stopsAtValues_item v _) fun _ => ?_
  refine .bind (stopsAtValues_getOrNull v _) fun _ => .bind (stopsAtValues_keyOf _) fun _ => ?_
  refine .bind (stopsAtValues_getOrNull v _) fun _ => .bind (stopsAtValues_keyOf _) fun _ => ?_
  refine .bind (stopsAtValues_getOrNull v _) fun _ => ?_
  refine .bind (stopsAtValues_junctionKeysOf _) fun _ => .bind (stopsAtValues_get? v _) fun _ => ?_
  refine .bind (stopsAtValues_getOrNull v _) fun _ => .bind (stopsAtValues_keyOf _) fun _ => ?_
  exact .bind (stopsAtValues_getOrNull v _) fun _ => .ok _

namespace Export

variable {entry : Entry} {entries : List Entry} {e : Entity} {es : List Entity} {g : Graph}
  {v : Value} {name : String} {names before : List String}

theorem stopsAtValues_indexesOf (v : Value) : StopsAtValues (indexesOf v) := by
  cases v with
  | null => exact .ok none
  | _ =>
    refine .bind (stopsAtValues_items _) fun _ => ?_
    exact .bind (.mapM stopsAtValues_keyOf) fun _ => .ok _

theorem stopsAtValues_ofValue_map (entry : Entry) :
    StopsAtValues (Entity.ofValue (.map entry)) := by
  rw [ofValue_map]
  refine .bind (stopsAtValues_item _ _) fun _ => .bind (stopsAtValues_items _) fun _ => ?_
  refine .bind (.mapM Field.stopsAtValues_ofValue) fun _ => ?_
  refine .bind (stopsAtValues_keyOf _) fun _ => .bind (stopsAtValues_items _) fun _ => ?_
  refine .bind (.mapM Association.stopsAtValues_ofValue) fun _ => ?_
  exact .bind (stopsAtValues_indexesOf _) fun _ => .ok _

theorem exists_entryFault_eq {f : Fault} (h : f.isAboutValue = true) :
    ∃ why, entryFault entry f = .schema why := by
  unfold entryFault
  cases f with
  | missingKey key => exact ⟨_, rfl⟩
  | _ => exact ⟨_, if_pos h⟩

def IsExportFault (f : Fault) : Prop := ∃ why, f = .schema why

theorem not_stopsWith_readEntry (entry : Entry) :
    ¬ StopsWith (fun f => ¬ IsExportFault f) (readEntry entry) := by
  rw [readEntry, stopsWith_mapError]
  rintro ⟨f, hf, hforeign⟩
  refine stopsAtValues_ofValue_map entry ⟨f, hf, ?_⟩
  exact Bool.eq_false_iff.mpr fun h => hforeign (exists_entryFault_eq h)

theorem not_stopsWith_addEntries (g : Graph) (entries : List Entry) :
    ¬ StopsWith (fun f => ¬ IsExportFault f) (addEntries g entries).result := by
  induction entries generalizing g with
  | nil => exact not_stopsWith_ok g
  | cons entry entries ih =>
    rw [addEntries, Logged.result_bind]
    refine not_stopsWith_bind (not_stopsWith_readEntry entry) fun e _ => ?_
    split
    · rw [Logged.result_bind]
      exact ih (g.add e)
    · exact ih (g.add e)

theorem not_stopsWith_load (v : Value) :
    ¬ StopsWith (fun f => ¬ IsExportFault f) (load v).result := by
  rw [load, Logged.result_bind]
  refine not_stopsWith_bind ?_ fun entries _ => not_stopsWith_addEntries .empty entries
  change ¬ StopsWith _ ((entriesOf v).mapError Fault.schema)
  rintro ⟨f, hf, hforeign⟩
  cases hv : entriesOf v with
  | ok entries =>
    rw [hv] at hf
    cases hf
  | error why =>
    rw [hv] at hf
    cases hf
    exact hforeign ⟨why, rfl⟩

section Entries

/-- The value is an export of these entries: it lists them, or it is a mapping of
their names to them. -/
inductive IsExportOf : Value → List Entry → Prop where
  | items {top : Entry} {own : List Entry} :
      Value.find? top (.text "entities") = some (.list (own.map .map)) → IsExportOf (.map top) own
  | mapping {top : Entry} {named : List (Value × Entry)} :
      Value.find? top (.text "entities") = some (.map (named.map fun n => (n.1, .map n.2))) →
      IsExportOf (.map top) (named.map fun n => namedEntry n.1 n.2)

theorem listEntries_eq_ok {position : Nat} {items : List Value} :
    listEntries position items = .ok entries ↔ items = entries.map .map := by
  constructor
  · intro h
    induction items generalizing position entries with
    | nil =>
      cases h
      rfl
    | cons item items ih =>
      cases item with
      | map fields =>
        rw [listEntries] at h
        obtain ⟨rest, hrest, h⟩ := bind_eq_ok.mp h
        cases h
        rw [ih hrest, List.map_cons]
      | _ => cases h
  · rintro rfl
    exact listEntries_map position entries

theorem mappingEntries_eq_ok {items : List (Value × Value)} :
    mappingEntries items = .ok entries ↔ ∃ named : List (Value × Entry),
      items = (named.map fun n => (n.1, .map n.2)) ∧
        entries = named.map fun n => namedEntry n.1 n.2 := by
  constructor
  · intro h
    induction items generalizing entries with
    | nil =>
      cases h
      exact ⟨[], rfl, rfl⟩
    | cons item items ih =>
      obtain ⟨name, item⟩ := item
      cases item with
      | map fields =>
        rw [mappingEntries] at h
        obtain ⟨rest, hrest, h⟩ := bind_eq_ok.mp h
        cases h
        obtain ⟨named, rfl, rfl⟩ := ih hrest
        exact ⟨(name, fields) :: named, rfl, rfl⟩
      | _ => cases h
  · rintro ⟨named, rfl, rfl⟩
    exact mappingEntries_map named

theorem entriesOf_eq_ok : entriesOf v = .ok entries ↔ IsExportOf v entries := by
  constructor
  · intro h
    cases v with
    | map top =>
      rw [entriesOf] at h
      cases hfind : Value.find? top (.text "entities") with
      | none =>
        rw [hfind] at h
        cases h
      | some listing =>
        rw [hfind] at h
        cases listing with
        | list items =>
          obtain rfl := listEntries_eq_ok.mp h
          exact .items hfind
        | map items =>
          obtain ⟨named, rfl, rfl⟩ := mappingEntries_eq_ok.mp h
          exact .mapping hfind
        | _ => cases h
    | _ => cases h
  · rintro (⟨hfind⟩ | ⟨hfind⟩)
    · rw [entriesOf, hfind]
      exact listEntries_map 1 entries
    · rw [entriesOf, hfind]
      exact mappingEntries_map _

end Entries

section Repetitions

def repeats (before names : List String) : List String :=
  (names.zipIdx.filter fun (name, i) => name ∈ before ++ names.take i).map (·.1)

theorem repeats_congr {other : List String} (h : ∀ name, name ∈ before ↔ name ∈ other) :
    repeats before names = repeats other names := by
  unfold repeats
  simp only [List.mem_append, h]

theorem repeats_cons : repeats before (name :: names) =
    (if name ∈ before then [name] else []) ++ repeats (before ++ [name]) names := by
  have hrest : (names.zipIdx 1).filter (fun (other, i) =>
      decide (other ∈ before ++ (name :: names).take i)) =
      (names.zipIdx.filter fun (other, i) =>
        decide (other ∈ (before ++ [name]) ++ names.take i)).map
          fun (other, i) => (other, i + 1) := by
    rw [List.zipIdx_succ, List.filter_map]
    congr 1
    refine List.filter_congr fun p _ => ?_
    simp
  unfold repeats
  rw [List.zipIdx_cons, List.filter_cons, hrest]
  by_cases hname : name ∈ before <;> simp [hname, Function.comp_def]

def repeatWarning (name : String) : String :=
  "Duplicate entity '" ++ name ++ "' in schema export, keeping the last"

theorem mem_order_add : name ∈ (g.add e).order ↔ name ∈ g.order ++ [e.name] := by
  rw [List.mem_append, List.mem_singleton]
  exact Graph.mem_names_place

theorem isSome_find?_iff : (g.find? name).isSome = true ↔ name ∈ g.order := by
  rw [Option.isSome_iff_exists, Graph.order, List.mem_map]
  exact exists_congr fun e => Graph.find?_eq_some

theorem warnings_addEntries (hread : entries.mapM readEntry = .ok es) :
    (addEntries g entries).warnings = (repeats g.order (es.map (·.name))).map repeatWarning := by
  induction entries generalizing g es with
  | nil =>
    cases hread
    rfl
  | cons entry entries ih =>
    obtain ⟨e, rest, he, hrest, rfl⟩ := List.forall₂_cons_left_iff.mp (mapM_eq_ok.mp hread)
    have hafter := ih (g := g.add e) (mapM_eq_ok.mpr hrest)
    rw [repeats_congr fun _ => mem_order_add] at hafter
    rw [addEntries, Logged.warnings_bind_of_ok he, List.map_cons, repeats_cons, List.map_append,
      ← hafter]
    by_cases hname : e.name ∈ g.order
    · rw [if_pos hname, if_pos (isSome_find?_iff.mpr hname)]
      rfl
    · rw [if_neg hname, if_neg fun h => hname (isSome_find?_iff.mp h)]
      rfl

end Repetitions

end Export

namespace Graph

variable {e : Entity} {es : List Entity} {g : Graph}

/-- The graph has the last entity of each name, in the place of the first. -/
structure IsLastOf (g : Graph) (es : List Entity) : Prop where
  entities : ∀ e, e ∈ g.entities ↔ ∃ before after, es = before ++ e :: after ∧
    e.name ∉ after.map (·.name)
  order : g.order = (es.map (·.name)).eraseDups

theorem mem_place_iff {x : Entity} : {es : List Entity} → (es.map (·.name)).Nodup →
    (x ∈ place e es ↔ x = e ∨ x ∈ es ∧ x.name ≠ e.name)
  | [], _ => by simp [place]
  | y :: es, h => by
    obtain ⟨hy, hes⟩ := List.nodup_cons.mp h
    by_cases hname : y.name = e.name
    · have hothers : x ∈ es → x.name ≠ e.name := fun hx hsame =>
        hy (List.mem_map.mpr ⟨x, hx, hsame.trans hname.symm⟩)
      rw [place, if_pos hname]
      grind
    · rw [place, if_neg hname, List.mem_cons, mem_place_iff hes]
      grind

theorem map_name_place : {es : List Entity} → (place e es).map (·.name) =
    if e.name ∈ es.map (·.name) then es.map (·.name) else es.map (·.name) ++ [e.name]
  | [] => rfl
  | x :: es => by
    by_cases hname : x.name = e.name
    · simp [place, hname]
    · rw [place, if_neg hname, List.map_cons, map_name_place, List.map_cons]
      grind

theorem ofEntities_concat (es : List Entity) (last : Entity) :
    ofEntities (es ++ [last]) = (ofEntities es).add last := by
  rw [ofEntities, List.foldl_append]
  rfl

/-- The last of its name is the one that comes last, or the last of another name before. -/
theorem exists_split_concat_iff {last : Entity} :
    (∃ before after, es ++ [last] = before ++ e :: after ∧ e.name ∉ after.map (·.name)) ↔
      e = last ∨ (∃ before after, es = before ++ e :: after ∧ e.name ∉ after.map (·.name)) ∧
        e.name ≠ last.name := by
  constructor
  · rintro ⟨before, after, hsplit, hnew⟩
    obtain rfl | ⟨after, x, rfl⟩ := List.eq_nil_or_concat after
    · exact .inl (List.cons.inj (List.append_inj' hsplit rfl).2).1.symm
    · rw [List.concat_eq_append, ← List.cons_append, ← List.append_assoc] at hsplit
      obtain ⟨rfl, hx⟩ := List.append_inj' hsplit rfl
      obtain rfl := (List.cons.inj hx).1
      rw [List.concat_eq_append, List.map_append, List.mem_append, not_or] at hnew
      exact .inr ⟨⟨before, after, rfl, hnew.1⟩, fun hname => hnew.2 (by simp [hname])⟩
  · rintro (rfl | ⟨⟨before, after, rfl, hnew⟩, hname⟩)
    · exact ⟨es, [], rfl, nofun⟩
    · exact ⟨before, after ++ [last], by simp, by simpa [hname] using hnew⟩

theorem isLastOf_ofEntities (es : List Entity) : (ofEntities es).IsLastOf es := by
  induction es using List.reverseRecOn with
  | nil => exact ⟨by simp [ofEntities, empty], rfl⟩
  | append_singleton es last ih =>
    rw [ofEntities_concat]
    constructor
    · intro e
      rw [add, mem_place_iff (ofEntities es).nodup, ih.entities, exists_split_concat_iff]
    · have hnames : (ofEntities es).entities.map (·.name) = (es.map (·.name)).eraseDups := ih.order
      rw [order, add, map_name_place, hnames, List.map_append, List.map_singleton,
        List.eraseDups_append]
      generalize es.map (·.name) = names
      by_cases hlast : last.name ∈ names
      · simp [hlast, List.removeAll]
      · simp [hlast, List.removeAll, List.eraseDups_cons]

end Graph

namespace Export

variable {v : Value}

/-- Every value is refused as an export or loaded. What is loaded has the last
entity of each name, and one warning for each entry whose name came before. -/
theorem load_refused_or_last (v : Value) :
    (∃ why, (load v).result = .error (.schema why) ∧
      ∀ entries es, IsExportOf v entries → ¬ List.Forall₂ IsEntity entries es) ∨
    ∃ g entries es, (load v).result = .ok g ∧
      IsExportOf v entries ∧ List.Forall₂ IsEntity entries es ∧ g.IsLastOf es ∧
      (load v).warnings = (repeats [] (es.map (·.name))).map repeatWarning := by
  cases hresult : (load v).result with
  | error f =>
    obtain ⟨why, rfl⟩ := not_not.mp fun hforeign => not_stopsWith_load v ⟨f, hresult, hforeign⟩
    refine .inl ⟨why, rfl, fun entries es hv hes => ?_⟩
    have hread := mapM_eq_ok.mpr (hes.imp fun _ _ => readEntry_eq_ok.mpr)
    have hload := load_eq_ok.mpr ⟨entries, es, entriesOf_eq_ok.mpr hv, hread, rfl⟩
    rw [hresult] at hload
    cases hload
  | ok g =>
    obtain ⟨entries, es, hv, hread, rfl⟩ := load_eq_ok.mp hresult
    have hes := (mapM_eq_ok.mp hread).imp fun _ _ => readEntry_eq_ok.mp
    refine .inr ⟨_, entries, es, rfl, entriesOf_eq_ok.mp hv, hes, Graph.isLastOf_ofEntities es, ?_⟩
    have hentries : (Logged.lift ((entriesOf v).mapError Fault.schema)).result = .ok entries := by
      rw [hv]
      rfl
    have hwarnings := Logged.warnings_bind_of_ok hentries (addEntries .empty)
    rw [warnings_addEntries hread] at hwarnings
    exact hwarnings

end Export

end Schema

end SchemaJoins
