import Mathlib.Data.List.Nodup
import SchemaJoins.Proofs.Text.Split
import SchemaJoins.Proofs.Validation.Declarations

/-! # The paths of joins

The path of a join is the names on the way to it with dots between them. A dot in a name is
written like these, and a key that is no text like the text it prints as. So a path is the
path of one join only where the names on the way to it, cut at their dots, are those of no
other.
-/

namespace SchemaJoins.Validation

/-- The joins nested in a configuration; what is no map has none. -/
def nestedJoins (entries : List (Value × Value)) : List (Value × Value) :=
  match Value.find? entries (.text "joins") with
  | some (.map nested) => nested
  | _ => []

/-- The map stands at a place below the mapping: the place is where the entries on the way
to it stand, and the keys are theirs. -/
inductive StandsAt : List (Value × Value) → List Nat → List Value → List (Value × Value) →
    Prop where
  | entry {joins entries : List (Value × Value)} {i : Nat} {key : Value} :
      joins[i]? = some (key, .map entries) → StandsAt joins [i] [key] entries
  | nested {joins entries config : List (Value × Value)} {i : Nat} {key : Value}
      {place : List Nat} {keys : List Value} :
      joins[i]? = some (key, .map entries) → StandsAt (nestedJoins entries) place keys config →
      StandsAt joins (i :: place) (key :: keys) config

structure Site where
  place : List Nat
  keys : List Value
  entries : List (Value × Value)

namespace Site

def names (s : Site) : List String := s.keys.map joinName

def path (s : Site) : String := pathText s.names

def segments (s : Site) : List (List Char) := s.names.flatMap fun name => name.toList.splitOn '.'

def IsIn (joins : List (Value × Value)) (s : Site) : Prop :=
  StandsAt joins s.place s.keys s.entries ∧
    (Value.find? s.entries (.text "parameters")).isSome = true

/-- The site as it is seen from the mapping whose only entry it is nested in. -/
def below (key : Value) (s : Site) : Site := ⟨0 :: s.place, key :: s.keys, s.entries⟩

/-- The site as it is seen with one more entry in front. -/
def later (s : Site) : Site := ⟨s.place.modifyHead (· + 1), s.keys, s.entries⟩

end Site

/-- All joins with parameters, each at its own place. -/
structure AreSites (joins : List (Value × Value)) (sites : List Site) : Prop where
  nodup : (sites.map Site.place).Nodup
  mem_iff : ∀ s, s ∈ sites ↔ s.IsIn joins

def FoundAt (path : List String) (s : Site) (d : Detail) : Prop :=
  ∃ key, s.keys.getLast? = some key ∧ detail? (joinName key) (path ++ s.names) s.entries = some d

variable {joins entries rest config : List (Value × Value)} {key : Value} {s : Site}
  {sites others : List Site} {path : List String} {d : Detail}

section Places

variable {place : List Nat} {keys : List Value}

theorem StandsAt.exists_cons (h : StandsAt joins place keys config) :
    ∃ i deeper, place = i :: deeper ∧ i < joins.length := by
  cases h with
  | entry he => exact ⟨_, _, rfl, (List.getElem?_eq_some_iff.mp he).1⟩
  | nested he _ => exact ⟨_, _, rfl, (List.getElem?_eq_some_iff.mp he).1⟩

theorem StandsAt.keys_ne_nil (h : StandsAt joins place keys config) : keys ≠ [] := by
  cases h <;> exact List.cons_ne_nil _ _

theorem not_standsAt_nil : ¬ StandsAt [] place keys config := by
  intro h
  obtain ⟨i, _, _, hi⟩ := h.exists_cons
  exact Nat.not_lt_zero i hi

theorem standsAt_cons {e : Value × Value} : StandsAt (e :: rest) place keys config ↔
    StandsAt [e] place keys config ∨
      ∃ i deeper, place = (i + 1) :: deeper ∧ StandsAt rest (i :: deeper) keys config := by
  constructor
  · rintro (@⟨_, _, _ | i, _, he⟩ | @⟨_, _, _, _ | i, _, _, _, he, h⟩)
    · exact .inl (.entry he)
    · exact .inr ⟨i, [], rfl, .entry he⟩
    · exact .inl (.nested he h)
    · exact .inr ⟨i, _, rfl, .nested he h⟩
  · rintro (h | ⟨i, deeper, rfl, h⟩)
    · obtain ⟨i, _, rfl, hi⟩ := h.exists_cons
      obtain rfl : i = 0 := by simpa using hi
      cases h with
      | entry he => exact .entry he
      | nested he h => exact .nested he h
    · cases h with
      | entry he => exact .entry he
      | nested he h => exact .nested he h

theorem standsAt_singleton : StandsAt [(key, .map entries)] place keys config ↔
    (place = [0] ∧ keys = [key] ∧ config = entries) ∨
      ∃ place' keys', StandsAt (nestedJoins entries) place' keys' config ∧
        place = 0 :: place' ∧ keys = key :: keys' := by
  constructor
  · rintro (@⟨_, _, _ | i, _, he⟩ | @⟨_, _, _, _ | i, _, _, _, he, h⟩)
    · cases he
      exact .inl ⟨rfl, rfl, rfl⟩
    · cases he
    · cases he
      exact .inr ⟨_, _, h, rfl, rfl⟩
    · cases he
  · rintro (⟨rfl, rfl, rfl⟩ | ⟨place', keys', h, rfl, rfl⟩)
    · exact .entry rfl
    · exact .nested rfl h

theorem not_standsAt_of_not_map {v : Value} (hv : ∀ entries, v ≠ .map entries) :
    ¬ StandsAt [(key, v)] place keys config := by
  rintro (@⟨_, _, _ | i, _, he⟩ | @⟨_, _, _, _ | i, _, _, _, he, h⟩)
  all_goals cases he
  all_goals exact hv _ rfl

end Places

section Sites

theorem areSites_nil : AreSites [] [] :=
  ⟨List.nodup_nil, fun _ => iff_of_false List.not_mem_nil fun hs => not_standsAt_nil hs.1⟩

theorem areSites_of_not_map {v : Value} (hv : ∀ entries, v ≠ .map entries) :
    AreSites [(key, v)] [] :=
  ⟨List.nodup_nil,
    fun _ => iff_of_false List.not_mem_nil fun hs => not_standsAt_of_not_map hv hs.1⟩

theorem modifyHead_succ_injective :
    Function.Injective (List.modifyHead (· + 1) : List Nat → List Nat) := by
  rintro (_ | ⟨i, place⟩) (_ | ⟨j, place'⟩) h
  · rfl
  · cases h
  · cases h
  · rw [List.modifyHead_cons, List.modifyHead_cons, List.cons.injEq] at h
    obtain ⟨hij, rfl⟩ := h
    obtain rfl : i = j := by omega
    rfl

theorem nodup_place_map {f : Site → Site} {g : List Nat → List Nat} (hg : Function.Injective g)
    (hf : ∀ s, (f s).place = g s.place) (h : (sites.map Site.place).Nodup) :
    ((sites.map f).map Site.place).Nodup := by
  have hplaces : (sites.map f).map Site.place = (sites.map Site.place).map g := by
    rw [List.map_map, List.map_map]
    exact List.map_congr_left fun s _ => hf s
  rw [hplaces]
  exact h.map hg

theorem AreSites.cons {e : Value × Value} (h : AreSites [e] sites) (hrest : AreSites rest others) :
    AreSites (e :: rest) (sites ++ others.map Site.later) := by
  constructor
  · rw [List.map_append, List.nodup_append]
    refine ⟨h.nodup, nodup_place_map modifyHead_succ_injective (fun _ => rfl) hrest.nodup, ?_⟩
    -- the first number of a place is zero on the left, and a successor on the right
    rintro _ hplace _ hplace' rfl
    obtain ⟨s, hs, rfl⟩ := List.mem_map.mp hplace
    obtain ⟨_, hlater, heq⟩ := List.mem_map.mp hplace'
    obtain ⟨s', hs', rfl⟩ := List.mem_map.mp hlater
    obtain ⟨i, deeper, hi, hlt⟩ := ((h.mem_iff s).mp hs).1.exists_cons
    obtain ⟨j, deeper', hj, -⟩ := ((hrest.mem_iff s').mp hs').1.exists_cons
    rw [Site.later, hi, hj, List.modifyHead_cons, List.cons.injEq] at heq
    rw [List.length_singleton] at hlt
    omega
  · intro s
    have hcons : s.IsIn (e :: rest) ↔ s.IsIn [e] ∨ (∃ i deeper, s.place = (i + 1) :: deeper ∧
        StandsAt rest (i :: deeper) s.keys s.entries) ∧
        (Value.find? s.entries (.text "parameters")).isSome = true :=
      (and_congr_left' standsAt_cons).trans or_and_right
    rw [List.mem_append, h.mem_iff, List.mem_map, hcons]
    refine or_congr_right ?_
    constructor
    · rintro ⟨s', hs', rfl⟩
      obtain ⟨hstands, hparameters⟩ := (hrest.mem_iff s').mp hs'
      obtain ⟨i, deeper, hi, -⟩ := hstands.exists_cons
      refine ⟨⟨i, deeper, ?_, hi ▸ hstands⟩, hparameters⟩
      rw [Site.later, hi, List.modifyHead_cons]
    · rintro ⟨⟨i, deeper, hi, hstands⟩, hparameters⟩
      refine ⟨⟨i :: deeper, s.keys, s.entries⟩, (hrest.mem_iff _).mpr ⟨hstands, hparameters⟩, ?_⟩
      rw [Site.later, List.modifyHead_cons, ← hi]

def ownSites (key : Value) (entries : List (Value × Value)) : List Site :=
  ((Value.find? entries (.text "parameters")).map fun _ => ⟨[0], [key], entries⟩).toList

theorem mem_ownSites : s ∈ ownSites key entries ↔
    (s.place = [0] ∧ s.keys = [key] ∧ s.entries = entries) ∧
      (Value.find? s.entries (.text "parameters")).isSome = true := by
  obtain ⟨place, keys, config⟩ := s
  rw [ownSites, Option.mem_toList, Option.map_eq_some_iff]
  constructor
  · rintro ⟨_, hfound, hs⟩
    cases hs
    exact ⟨⟨rfl, rfl, rfl⟩, Option.isSome_of_eq_some hfound⟩
  · rintro ⟨⟨rfl, rfl, rfl⟩, hfound⟩
    obtain ⟨parameters, hfound⟩ := Option.isSome_iff_exists.mp hfound
    exact ⟨parameters, hfound, rfl⟩

theorem AreSites.nested (h : AreSites (nestedJoins entries) sites) :
    AreSites [(key, .map entries)] (ownSites key entries ++ sites.map (Site.below key)) := by
  constructor
  · rw [List.map_append, List.nodup_append]
    refine ⟨?_, nodup_place_map List.cons_injective (fun _ => rfl) h.nodup, ?_⟩
    · unfold ownSites
      cases Value.find? entries (.text "parameters") <;> simp
    -- the place of a nested join is longer than that of the entry
    · rintro _ hplace _ hplace' rfl
      obtain ⟨s, hs, rfl⟩ := List.mem_map.mp hplace
      obtain ⟨_, hbelow, heq⟩ := List.mem_map.mp hplace'
      obtain ⟨s', hs', rfl⟩ := List.mem_map.mp hbelow
      obtain ⟨i, deeper, hi, -⟩ := ((h.mem_iff s').mp hs').1.exists_cons
      rw [Site.below, hi, (mem_ownSites.mp hs).1.1, List.cons.injEq] at heq
      cases heq.2
  · intro s
    have hsplit : s.IsIn [(key, .map entries)] ↔ _ :=
      (and_congr_left' standsAt_singleton).trans or_and_right
    rw [List.mem_append, mem_ownSites, List.mem_map, hsplit]
    refine or_congr_right ?_
    constructor
    · rintro ⟨s', hs', rfl⟩
      obtain ⟨hstands, hparameters⟩ := (h.mem_iff s').mp hs'
      exact ⟨⟨_, _, hstands, rfl, rfl⟩, hparameters⟩
    · obtain ⟨place, keys, config⟩ := s
      rintro ⟨⟨place', keys', hstands, rfl, rfl⟩, hparameters⟩
      exact ⟨⟨place', keys', config⟩, (h.mem_iff _).mpr ⟨hstands, hparameters⟩, rfl⟩

end Sites

section Walk

theorem details_collectNested (path : List String) (entries : List (Value × Value)) :
    (collectNested path entries).details = (collect path (nestedJoins entries)).details := by
  rw [collectNested_eq, nestedJoins]
  split <;> simp_all [collect, Findings.empty, nestedIssue, Findings.issue]

theorem sizeOf_nestedJoins_le (entries : List (Value × Value)) :
    sizeOf (nestedJoins entries) ≤ sizeOf entries := by
  unfold nestedJoins
  split
  · rename_i nested hf
    exact Nat.le_of_lt (sizeOf_find?_map hf)
  · cases entries <;> simp +arith

theorem FoundAt.below (h : FoundAt (path ++ [joinName key]) s d) :
    FoundAt path (s.below key) d := by
  obtain ⟨last, hlast, hd⟩ := h
  refine ⟨last, ?_, ?_⟩
  · rw [Site.below, List.getLast?_cons, hlast]
    rfl
  · rw [List.append_assoc] at hd
    exact hd

theorem forall₂_ownSites : List.Forall₂ (FoundAt path) (ownSites key entries)
    (detail? (joinName key) (path ++ [joinName key]) entries).toList := by
  unfold ownSites
  cases hfound : Value.find? entries (.text "parameters") with
  | none =>
    rw [detail?, hfound]
    exact .nil
  | some parameters =>
    obtain ⟨d, hd⟩ : ∃ d, detail? (joinName key) (path ++ [joinName key]) entries = some d := by
      rw [detail?, hfound]
      exact ⟨_, rfl⟩
    rw [hd]
    exact .cons ⟨key, rfl, hd⟩ .nil

theorem exists_sites_entry (path : List String) (key config : Value)
    (hbelow : ∀ entries, config = .map entries → ∃ sites, AreSites (nestedJoins entries) sites ∧
      List.Forall₂ (FoundAt (path ++ [joinName key])) sites
        (collect (path ++ [joinName key]) (nestedJoins entries)).details) :
    ∃ sites, AreSites [(key, config)] sites ∧ List.Forall₂ (FoundAt path) sites
      (collectJoin (joinName key) (path ++ [joinName key]) config).details := by
  cases config with
  | map entries =>
    obtain ⟨sites, hsites, hfound⟩ := hbelow entries rfl
    refine ⟨_, hsites.nested, ?_⟩
    rw [collectJoin, Findings.append_def, details_collectNested]
    refine List.rel_append forall₂_ownSites ?_
    exact List.forall₂_map_left_iff.mpr (hfound.imp fun _ _ => FoundAt.below)
  | _ =>
    refine ⟨[], areSites_of_not_map fun _ he => ?_, .nil⟩
    cases he

theorem exists_sites (path : List String) : (joins : List (Value × Value)) →
    ∃ sites, AreSites joins sites ∧ List.Forall₂ (FoundAt path) sites (collect path joins).details
  | [] => ⟨[], areSites_nil, .nil⟩
  | (key, config) :: rest => by
    obtain ⟨sites, hsites, hfound⟩ := exists_sites_entry path key config fun entries he =>
        have := sizeOf_nestedJoins_le entries
        exists_sites _ (nestedJoins entries)
    obtain ⟨others, hothers, hrest⟩ := exists_sites path rest
    refine ⟨_, hsites.cons hothers, ?_⟩
    rw [collect, Findings.append_def]
    exact List.rel_append hfound (List.forall₂_map_left_iff.mpr hrest)
  termination_by joins => sizeOf joins
  decreasing_by
    · subst he
      simp only [List.cons.sizeOf_spec, Prod.mk.sizeOf_spec, Value.map.sizeOf_spec]
      omega
    · simp only [List.cons.sizeOf_spec]
      omega

end Walk

section Segments

theorem splitOn_path (hs : s.keys ≠ []) : s.path.toList.splitOn '.' = s.segments := by
  have hnames : s.names ≠ [] := by
    simpa [Site.names] using hs
  exact Text.splitOn_intercalate_texts rfl hnames

theorem path_eq_iff {s' : Site} (hs : s.keys ≠ []) (hs' : s'.keys ≠ []) :
    s.path = s'.path ↔ s.segments = s'.segments := by
  rw [← splitOn_path hs, ← splitOn_path hs']
  constructor
  · intro h
    rw [h]
  · intro h
    have hjoined := congrArg (List.intercalate ['.']) h
    rw [List.intercalate_splitOn, List.intercalate_splitOn] at hjoined
    exact String.toList_inj.mp hjoined

theorem segments_of_dotless (h : ∀ name ∈ s.names, '.' ∉ name.toList) :
    s.segments = s.names.map String.toList := by
  have hsingle : ∀ name ∈ s.names, name.toList.splitOn '.' = [name.toList] :=
    fun name hname => List.splitOn_eq_singleton (h name hname)
  rw [Site.segments, List.flatMap_congr hsingle, ← List.map_eq_flatMap]

end Segments

section Plain

/-- The names of the entries differ, and none has a dot. -/
structure HasPlainNames (joins : List (Value × Value)) : Prop where
  nodup : (joins.map fun e => joinName e.1).Nodup
  dotless : ∀ e ∈ joins, '.' ∉ (joinName e.1).toList

def PlainBelow (joins : List (Value × Value)) : Prop :=
  HasPlainNames joins ∧
    ∀ entries, Reaches joins (.map entries) → HasPlainNames (nestedJoins entries)

variable {place place' : List Nat} {keys keys' : List Value} {config' : List (Value × Value)}

theorem reaches_of_nestedJoins {v : Value} (hm : (key, .map entries) ∈ joins)
    (h : Reaches (nestedJoins entries) v) : Reaches joins v := by
  unfold nestedJoins at h
  split at h
  · rename_i nested hf
    exact .nested hm hf h
  · exact absurd h not_reaches_nil

theorem PlainBelow.nested (h : PlainBelow joins) (hm : (key, .map entries) ∈ joins) :
    PlainBelow (nestedJoins entries) :=
  ⟨h.2 entries (.entry hm), fun _ hr => h.2 _ (reaches_of_nestedJoins hm hr)⟩

theorem StandsAt.dotless (h : StandsAt joins place keys config) (hplain : PlainBelow joins) :
    ∀ name ∈ keys.map joinName, '.' ∉ name.toList := by
  induction h with
  | entry he =>
    intro name hname
    obtain rfl := List.mem_singleton.mp hname
    exact hplain.1.dotless _ (List.mem_of_getElem? he)
  | nested he _ ih =>
    have hm := List.mem_of_getElem? he
    rw [List.map_cons, List.forall_mem_cons]
    exact ⟨hplain.1.dotless _ hm, ih (hplain.nested hm)⟩

theorem HasPlainNames.eq_of_joinName {i j : Nat} {key' v v' : Value} (h : HasPlainNames joins)
    (hi : joins[i]? = some (key, v)) (hj : joins[j]? = some (key', v'))
    (hname : joinName key = joinName key') : i = j := by
  have hlt : i < (joins.map fun e => joinName e.1).length := by
    rw [List.length_map]
    exact (List.getElem?_eq_some_iff.mp hi).1
  refine (List.getElem?_inj hlt h.nodup).mp ?_
  rw [List.getElem?_map, List.getElem?_map, hi, hj, Option.map_some, Option.map_some, hname]

theorem StandsAt.place_eq (h : StandsAt joins place keys config) (hplain : PlainBelow joins)
    (h' : StandsAt joins place' keys' config') (hnames : keys.map joinName = keys'.map joinName) :
    place = place' := by
  induction h generalizing place' keys' with
  | entry he =>
    cases h' with
    | entry he' => rw [hplain.1.eq_of_joinName he he' (List.cons.inj hnames).1]
    | nested _ h' =>
      have hnil := (List.cons.inj hnames).2.symm
      exact absurd (List.map_eq_nil_iff.mp hnil) h'.keys_ne_nil
  | nested he h ih =>
    cases h' with
    | entry _ =>
      have hnil := (List.cons.inj hnames).2
      exact absurd (List.map_eq_nil_iff.mp hnil) h.keys_ne_nil
    | nested he' h' =>
      obtain ⟨hname, hdeeper⟩ := List.cons.inj hnames
      obtain rfl := hplain.1.eq_of_joinName he he' hname
      rw [he] at he'
      cases he'
      rw [ih (hplain.nested (List.mem_of_getElem? he)) h' hdeeper]

end Plain

section Report

theorem declaration?_of_first {report : Report} {before after : List Entry} {e : Entry}
    (hentries : report.entries = before ++ e :: after)
    (hfirst : ∀ b ∈ before, b.detail.path ≠ e.detail.path) :
    report.declaration? e.detail.path = e.declaration := by
  have hnone : before.find? (·.detail.path == e.detail.path) = none := by
    rw [List.find?_eq_none]
    intro b hb
    simpa using hfirst b hb
  rw [Report.declaration?, hentries, List.find?_append, hnone, Option.none_or, List.find?_cons,
    beq_self_eq_true]
  rfl

theorem declaration?_of_nodup {report : Report} (h : report.paths.Nodup) {e : Entry}
    (he : e ∈ report.entries) : report.declaration? e.detail.path = e.declaration := by
  obtain ⟨before, after, hentries⟩ := List.append_of_mem he
  refine declaration?_of_first hentries fun b hb heq => ?_
  rw [Report.paths, hentries, List.map_append, List.map_cons, List.nodup_append] at h
  exact h.2.2 _ (List.mem_map_of_mem hb) _ List.mem_cons_self heq

theorem map_path {details : List Detail} (h : List.Forall₂ (FoundAt []) sites details) :
    details.map (·.path) = sites.map Site.path := by
  induction h with
  | nil => rfl
  | cons hfound _ ih =>
    obtain ⟨key, -, hd⟩ := hfound
    obtain ⟨parameters, -, rfl⟩ := Option.map_eq_some_iff.mp hd
    rw [List.map_cons, List.map_cons, ih]
    rfl

theorem map_detail {details : List Detail} {found : List Entry}
    (h : List.Forall₂ IsEntryOf details found) : found.map (·.detail) = details := by
  induction h with
  | nil => rfl
  | cons he _ ih => rw [List.map_cons, he.detail, ih]

theorem AreSites.nodup_path_iff (h : AreSites joins sites) : (sites.map Site.path).Nodup ↔
    ∀ s s' : Site, s.IsIn joins → s'.IsIn joins → s.segments = s'.segments →
      s.place = s'.place := by
  have hpath : ∀ s ∈ sites, ∀ s' ∈ sites, (s.path = s'.path ↔ s.segments = s'.segments) :=
    fun s hs s' hs' => path_eq_iff ((h.mem_iff s).mp hs).1.keys_ne_nil
      ((h.mem_iff s').mp hs').1.keys_ne_nil
  rw [List.nodup_map_iff_inj_on h.nodup.of_map]
  constructor
  · intro hinj s s' hs hs' hsegments
    have hm := (h.mem_iff s).mpr hs
    have hm' := (h.mem_iff s').mpr hs'
    rw [hinj s hm s' hm' ((hpath s hm s' hm').mpr hsegments)]
  · intro hplace s hs s' hs' heq
    refine List.inj_on_of_nodup_map h.nodup hs hs' ?_
    exact hplace s s' ((h.mem_iff s).mp hs) ((h.mem_iff s').mp hs') ((hpath s hs s' hs').mp heq)

theorem PlainBelow.place_eq {s' : Site} (h : PlainBelow joins) (hs : s.IsIn joins)
    (hs' : s'.IsIn joins) (hsegments : s.segments = s'.segments) : s.place = s'.place := by
  rw [segments_of_dotless (hs.1.dotless h), segments_of_dotless (hs'.1.dotless h)] at hsegments
  have hnames : s.names = s'.names :=
    List.map_injective_iff.mpr (fun _ _ => String.toList_inj.mp) hsegments
  exact hs.1.place_eq h hs'.1 hnames

/-- A report has an entry for every place of a join with parameters. The paths differ exactly
if no two places have the same segments, and then the declaration at the path of a join is its
own. The declaration at a path that several joins have is that of the first of them. In a
mapping whose names differ wherever they stand side by side and have no dots, all paths
differ. -/
theorem paths_nodup_iff (joins : List (Value × Value)) : ∃ report sites,
    check joins = .ok report ∧ AreSites joins sites ∧
    List.Forall₂ (fun s e => FoundAt [] s e.detail) sites report.entries ∧
    (∀ e ∈ report.entries, IsEntryOf e.detail e) ∧
    (report.paths.Nodup ↔ ∀ s s' : Site, s.IsIn joins → s'.IsIn joins →
      s.segments = s'.segments → s.place = s'.place) ∧
    (report.paths.Nodup → ∀ e ∈ report.entries,
      report.declaration? e.detail.path = e.declaration) ∧
    (∀ before e after, report.entries = before ++ e :: after →
      (∀ b ∈ before, b.detail.path ≠ e.detail.path) →
      report.declaration? e.detail.path = e.declaration) ∧
    (PlainBelow joins → report.paths.Nodup) := by
  obtain ⟨found, hcheck, hentries⟩ := exists_report joins
  obtain ⟨sites, hsites, hfound⟩ := exists_sites [] joins
  have hpaths : found.map (·.detail.path) = sites.map Site.path := by
    rw [← map_path hfound, ← map_detail hentries, List.map_map]
    rfl
  have hnodup := hsites.nodup_path_iff
  rw [← hpaths] at hnodup
  refine ⟨_, sites, hcheck, hsites, ?_, ?_, hnodup, ?_, ?_, ?_⟩
  · rw [← map_detail hentries] at hfound
    exact List.forall₂_map_right_iff.mp hfound
  · intro e he
    obtain ⟨d, -, hentry⟩ := exists_of_mem_right hentries he
    exact hentry.detail.symm ▸ hentry
  · exact fun h e he => declaration?_of_nodup h he
  · exact fun before e after => declaration?_of_first
  · exact fun hplain => hnodup.mpr fun s s' hs hs' => hplain.place_eq hs hs'

/-- A join with a dot in its name, and one whose path is the same. -/
def dottedItems : List (Value × Value) :=
  [(.text "orders.items", .map [
      (.text "parameters", .list [.map [(.text "name", .text "limit"),
        (.text "type", .text "integer")]]),
      (.text "fields", .map [(.text "price", .map [(.text "type", .text "decimal")])])]),
    (.text "orders", .map [(.text "joins", .map [(.text "items", .map [
      (.text "parameters", .list [.map [(.text "name", .text "colour"),
        (.text "type", .text "string")]]),
      (.text "fields", .map [(.text "price", .map [(.text "type", .text "decimal")])])])])])]

/-- Both joins have the path of the first, and at the path of the second there is the
declaration of the first. -/
theorem not_paths_nodup_dottedItems :
    (¬ ∀ joins report, check joins = .ok report → report.paths.Nodup) ∧
    ¬ ∀ joins report, check joins = .ok report →
      ∀ e ∈ report.entries, report.declaration? e.detail.path = e.declaration := by
  obtain ⟨found, hcheck, -⟩ := exists_report dottedItems
  constructor
  · intro h
    have hpaths : (check dottedItems).toOption.map Report.paths =
        some ["orders.items", "orders.items"] := by decide +kernel
    rw [hcheck] at hpaths
    have hnodup := h _ _ hcheck
    rw [Option.some.inj hpaths] at hnodup
    simp at hnodup
  · intro h
    have hnames : (check dottedItems).toOption.map (fun report => (report.entries.map fun e =>
          (report.declaration? e.detail.path).map Declaration.parameterNames,
        report.entries.map fun e => e.declaration.map Declaration.parameterNames)) =
        some ([some ["limit"], some ["limit"]], [some ["limit"], some ["colour"]]) := by
      decide +kernel
    rw [hcheck] at hnames
    have hsame := List.map_congr_left fun e he =>
      congrArg (Option.map Declaration.parameterNames) (h _ _ hcheck e he)
    obtain ⟨hlookup, hown⟩ := Prod.mk.inj (Option.some.inj hnames)
    rw [hsame, hown] at hlookup
    exact absurd hlookup (by decide)

end Report

end SchemaJoins.Validation
