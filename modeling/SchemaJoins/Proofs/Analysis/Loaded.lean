import SchemaJoins.Proofs.Analysis.Totality
import SchemaJoins.Proofs.Schema.Reading

/-! # Analyses of loaded graphs

Loading asks nothing of tables, junctions and requested join kinds: whatever
stands there is kept and keeps no export from being loaded. The graph is typed
exactly if its entries say texts or nothing in these places. A graph that is typed
is analysed under all settings; a table or a join kind that has no case and a
junction that cannot be looked up stop all analyses.
-/

namespace SchemaJoins

open Schema

namespace Schema.Export

variable {entry other fields : Entry} {entries others : List Entry} {a : Association} {e : Entity}
  {g : Graph} {v w : Value}

/-- What an entry says of its table and of the junctions and join kinds of its
associations are texts or nothing. -/
structure SaysTyped (entry : Entry) : Prop where
  table : (tableOf entry).IsOptionalText
  associations : ∀ items fields, listed entry "associations" = some items → .map fields ∈ items →
    (said fields "junction_entity").IsOptionalText ∧ (said fields "join_kind").IsOptionalText

theorem IsAssociation.isTyped_iff (h : IsAssociation fields a) : a.IsTyped ↔
    (said fields "junction_entity").IsOptionalText ∧ (said fields "join_kind").IsOptionalText := by
  rw [← h.junctionEntity, ← h.joinKind]
  exact ⟨fun ha => ⟨ha.junctionEntity, ha.joinKind⟩, fun ⟨hj, hk⟩ => ⟨hj, hk⟩⟩

theorem IsEntity.isTyped_iff (h : IsEntity entry e) : e.IsTyped ↔ SaysTyped entry := by
  obtain ⟨items, hitems, hassociations⟩ := h.associations
  have hall := mapM_eq_ok.mp hassociations
  constructor
  · intro he
    refine ⟨h.table ▸ he.table, fun own fields hown hmem => ?_⟩
    obtain rfl : items = own := Option.some.inj (hitems.symm.trans hown)
    obtain ⟨a, ha, hread⟩ := exists_of_mem_left hall hmem
    obtain ⟨_, ⟨⟩, hassociation⟩ := association_eq_ok.mp hread
    exact hassociation.isTyped_iff.mp (he.associations a ha)
  · intro hclaims
    refine ⟨h.table ▸ hclaims.table, fun a ha => ?_⟩
    obtain ⟨_, hmem, hread⟩ := exists_of_mem_right hall ha
    obtain ⟨fields, rfl, hassociation⟩ := association_eq_ok.mp hread
    exact hassociation.isTyped_iff.mpr (hclaims.associations items fields hitems hmem)

section Agreement

def SaysSameBut (keys : List String) (entry other : Entry) : Prop :=
  ∀ key ∉ keys, Value.find? entry (.text key) = Value.find? other (.text key)

theorem SaysSameBut.said {keys : List String} {key : String} (h : SaysSameBut keys entry other)
    (hkey : key ∉ keys) : said entry key = said other key := congrArg (·.getD .null) (h key hkey)

def RecordsAgree (v w : Value) : Prop :=
  ∃ fields other, v = .map fields ∧ w = .map other ∧
    SaysSameBut ["junction_entity", "join_kind"] fields other

/-- The entries say the same but for the table, and the junctions and join kinds of
their associations. -/
structure Agree (entry other : Entry) : Prop where
  rest : SaysSameBut ["table", "source", "associations"] entry other
  associations : ∃ own items, listed entry "associations" = some own ∧
    listed other "associations" = some items ∧ List.Forall₂ RecordsAgree own items

theorem IsAssociation.of_saysSameBut (h : IsAssociation fields a)
    (hsame : SaysSameBut ["junction_entity", "join_kind"] fields other) :
    IsAssociation other { a with
      junctionEntity := said other "junction_entity", joinKind := said other "join_kind" } := by
  constructor
  · rw [← hsame "name" (by decide)]
    exact h.name
  · rw [← hsame "kind" (by decide)]
    exact h.kind
  · rw [← hsame "related_entity" (by decide)]
    exact h.relatedEntity
  · rw [← hsame.said (by decide)]
    exact h.ownerKey
  · rw [← hsame.said (by decide)]
    exact h.relatedKey
  · rfl
  · rw [← hsame.said (by decide)]
    exact h.junctionKeys
  · rw [← hsame "through_path" (by decide), ← hsame.said (by decide)]
    exact h.throughPath
  · rfl

theorem RecordsAgree.exists_association (h : RecordsAgree v w)
    (hv : Association.ofValue v = .ok a) : ∃ b, Association.ofValue w = .ok b := by
  obtain ⟨fields, other, rfl, rfl, hsame⟩ := h
  obtain ⟨_, ⟨⟩, hread⟩ := association_eq_ok.mp hv
  exact ⟨_, association_eq_ok.mpr ⟨other, rfl, hread.of_saysSameBut hsame⟩⟩

theorem Agree.exists_entity (h : Agree entry other) (hread : IsEntity entry e) :
    ∃ e', IsEntity other e' := by
  obtain ⟨own, items, hown, hitems, hagree⟩ := h.associations
  obtain ⟨_, hlisted, hassociations⟩ := hread.associations
  cases hown.symm.trans hlisted
  have hall : ∀ w ∈ items, ∃ b, Association.ofValue w = .ok b := by
    intro w hw
    obtain ⟨v, hv, hvw⟩ := exists_of_mem_right hagree hw
    obtain ⟨a, _, ha⟩ := exists_of_mem_left (mapM_eq_ok.mp hassociations) hv
    exact hvw.exists_association ha
  obtain ⟨associations, has⟩ := exists_mapM hall
  refine ⟨{ e with table := tableOf other, associations },
    ?_, rfl, ?_, ?_, ⟨items, hitems, has⟩, ?_⟩
  · rw [← h.rest "name" (by decide)]
    exact hread.name
  · rw [listed, ← h.rest "fields" (by decide)]
    exact hread.fields
  · rw [← h.rest "primary_key" (by decide)]
    exact hread.primaryKey
  · rw [← h.rest.said (by decide)]
    exact hread.indexes

theorem exists_load_of_agree (hv : (load v).result = .ok g) (hentries : entriesOf v = .ok entries)
    (hothers : entriesOf w = .ok others) (h : List.Forall₂ Agree entries others) :
    ∃ g', (load w).result = .ok g' := by
  obtain ⟨_, es, hsame, hes, -⟩ := load_eq_ok.mp hv
  cases hentries.symm.trans hsame
  have hall : ∀ other ∈ others, ∃ e, readEntry other = .ok e := by
    intro other hother
    obtain ⟨entry, hentry, hagree⟩ := exists_of_mem_right h hother
    obtain ⟨e, _, he⟩ := exists_of_mem_left (mapM_eq_ok.mp hes) hentry
    obtain ⟨e', he'⟩ := hagree.exists_entity (readEntry_eq_ok.mp he)
    exact ⟨e', readEntry_eq_ok.mpr he'⟩
  obtain ⟨es', hes'⟩ := exists_mapM hall
  exact ⟨_, load_eq_ok.mpr ⟨others, es', hothers, hes', rfl⟩⟩

end Agreement

end Schema.Export

namespace Analyzer

open Relationship Export

variable {z : Analyzer} {g : Graph} {e : Entity} {r : Relationship} {rs : List Relationship}
  {as : List Analysis} {settings : Settings}

section Failure

theorem hasCase_of_detect {found : List Dimension} {x : Entity}
    (h : Dimension.detect g e = .ok found) (hx : x ∈ g.entities) (htable : x.table.isTrue = true) :
    x.table.HasCase := by
  obtain ⟨_, hcompanion, _⟩ := bind_eq_ok.mp h
  obtain ⟨_, hfound, _⟩ := bind_eq_ok.mp hcompanion
  obtain ⟨_, hrows, _⟩ := bind_eq_ok.mp hfound
  obtain ⟨_, _, hrow⟩ := exists_of_mem_left (mapM_eq_ok.mp hrows) (Graph.mem_sorted.mpr hx)
  obtain ⟨_, hspellings, _⟩ := bind_eq_ok.mp hrow
  obtain ⟨w, hlowered, _⟩ := bind_eq_ok.mp hspellings
  rw [Entity.sourceName, if_pos htable] at hlowered
  exact Value.exists_lowered_iff.mp ⟨w, hlowered⟩

theorem endsName_of_detect {found : List Dimension} {bs : List UInt8}
    (h : Dimension.detect g e = .ok found) (htable : e.table.isTrue = true)
    (hbytes : e.table = .bytes bs) : Dimension.hasNameEnding (.text e.name) = .ok true := by
  obtain ⟨_, _, h⟩ := bind_eq_ok.mp h
  obtain ⟨marks, hmarks, _⟩ := bind_eq_ok.mp h
  obtain hnamed | ⟨s, hs⟩ := Dimension.exists_indicators_iff.mp ⟨marks, hmarks⟩
  · exact hnamed
  · rw [Entity.sourceName, if_pos htable, hbytes] at hs
    cases hs

theorem hasCase_of_isBuilt {c : JoinConfig} (h : IsBuilt g e r c)
    (hasked : (askedKind e r).isTrue = true) : (askedKind e r).HasCase := by
  obtain ⟨_, hkind, _⟩ := Logged.result_bind_eq_ok.mp h
  exact (JoinConfig.requestedKind_eq_ok.mp hkind).1 hasked

theorem exists_isBuilt_of_defaultJoins {taken : List Value} {built : List JoinConfig}
    {name : String} (h : (z.defaultJoins e taken rs).result = .ok built) (hr : r ∈ rs)
    (hname : r.name = .text name)
    (hnew : taken.any (Value.sameKey (.text name)) = false) :
    ∃ r' c, r'.name = .text name ∧ IsBuilt z.graph e r' c := by
  induction rs generalizing taken built with
  | nil => cases hr
  | cons x rs ih =>
    rw [defaultJoins] at h
    split at h
    · rename_i htaken
      obtain ⟨_, _, h⟩ := Logged.result_bind_eq_ok.mp h
      obtain rfl | hr := List.mem_cons.mp hr
      · rw [hname, hnew] at htaken
        cases htaken
      · exact ih h hr hnew
    · obtain ⟨c, hc, h⟩ := Logged.result_bind_eq_ok.mp h
      obtain ⟨rest, hrest, _⟩ := Logged.result_bind_eq_ok.mp h
      by_cases hsame : x.name = .text name
      · exact ⟨x, c, hsame, hc⟩
      · obtain rfl | hr := List.mem_cons.mp hr
        · exact absurd hname hsame
        · have hother : Value.sameKey (.text name) x.name = false :=
            Bool.eq_false_iff.mpr fun hkey => hsame (Value.text_sameKey.mp hkey)
          refine ih hrest hr ?_
          rw [List.any_append, hnew, List.any_cons, hother]
          rfl

theorem isHashable_of_warningsFor {joins : List JoinConfig} {hierarchies : List Hierarchy}
    {cycles : List (List Value)} {warnings : List String} {junction : Value}
    (h : z.warningsFor e rs joins hierarchies cycles = .ok warnings) (hr : r ∈ rs)
    (hj : r.junction? = some junction) : junction.isHashable = true := by
  obtain ⟨_, _, h⟩ := bind_eq_ok.mp h
  obtain ⟨_, hmissing, _⟩ := bind_eq_ok.mp h
  obtain ⟨_, _, hline⟩ := exists_of_mem_left (mapM_eq_ok.mp hmissing) hr
  rw [junctionWarning?, hj] at hline
  obtain ⟨found, hfind, _⟩ := bind_eq_ok.mp hline
  exact Graph.exists_findValue?_iff.mp ⟨found, hfind⟩

/-- What is kept of an entity stops its analysis: a table or the join kind of a
relationship that counts as given but has no case, a table in bytes where the name of
the entity has not the ending of a dimension, or a junction that cannot be looked up. -/
inductive Stops (g : Graph) (e : Entity) : Prop where
  | table : e.table.isTrue = true → ¬ e.table.HasCase → Stops g e
  | ending {bs : List UInt8} : e.table.isTrue = true → e.table = .bytes bs →
      Dimension.hasNameEnding (.text e.name) = .ok false → Stops g e
  | joinKind {rs : List Relationship} {r : Relationship} :
      (Relationship.ofEntity g e).result = .ok rs → r ∈ rs → (askedKind e r).isTrue = true →
      ¬ (askedKind e r).HasCase → Stops g e
  | junction {rs : List Relationship} {r : Relationship} {junction : Value} :
      (Relationship.ofEntity g e).result = .ok rs → r ∈ rs → r.junction? = some junction →
      junction.isHashable = false → Stops g e

theorem not_stops_of_analyzeEntity {cycles : List (List Value)} {a : Analysis}
    (h : (z.analyzeEntity cycles e).result = .ok a) (he : e ∈ z.graph.entities) :
    ¬ Stops z.graph e := by
  obtain ⟨rs, ha⟩ := analyzeEntity_eq_ok.mp h
  rintro (⟨hgiven, hno⟩ | ⟨hgiven, hbytes, hno⟩ | ⟨hrs, hr, hgiven, hno⟩ | ⟨hrs, hr, hj, hno⟩)
  · exact hno (hasCase_of_detect ha.dimensions he hgiven)
  · cases (endsName_of_detect ha.dimensions hgiven hbytes).symm.trans hno
  · cases ha.classified.symm.trans hrs
    obtain ⟨built, hbuilt, _⟩ := ha.joins
    obtain ⟨a, _, hclassified⟩ := (mem_classifyEach hrs).mp hr
    obtain ⟨shape, rfl⟩ := along_of_classifyAssociation hclassified
    obtain ⟨r', c, hname, hc⟩ := exists_isBuilt_of_defaultJoins hbuilt hr rfl rfl
    have hasked : askedKind e r' = askedKind e (along e a shape) := by
      rw [askedKind, hname]
      rfl
    rw [← hasked] at hgiven hno
    exact hno (hasCase_of_isBuilt hc hgiven)
  · cases ha.classified.symm.trans hrs
    rw [isHashable_of_warningsFor ha.warnings hr hj] at hno
    cases hno

theorem not_stops_of_analysesOf (h : (analysesOf g settings).result = .ok as)
    (he : e ∈ g.entities) : ¬ Stops g e := by
  obtain ⟨z, hz, has⟩ := Logged.result_bind_eq_ok.mp h
  obtain ⟨optimizer, _, hz⟩ := Logged.result_bind_eq_ok.mp hz
  cases hz
  obtain ⟨cycles, _, has⟩ := Logged.result_bind_eq_ok.mp has
  obtain ⟨a, _, ha⟩ := exists_of_mem_left (forall₂_of_analyzeEach has) (Graph.mem_sorted.mpr he)
  exact not_stops_of_analyzeEntity ha he

theorem exists_error_of_stops (he : e ∈ g.entities) (h : Stops g e) (settings : Settings) :
    ∃ f, (analysesOf g settings).result = .error f := by
  cases has : (analysesOf g settings).result with
  | error f => exact ⟨f, rfl⟩
  | ok as => exact absurd h (not_stops_of_analysesOf has he)

end Failure

/-- The graph was read from the entries and holds what they say. It is typed exactly if
they say so; what they say of tables, junctions and join kinds keeps no entries from being
loaded, but one of them may stop all analyses of the graph. -/
structure HoldsWhatIsSaid (entries : List Entry) (g : Graph) : Prop where
  read : ∀ e ∈ g.entities, ∃ entry ∈ entries, readEntry entry = .ok e
  isTyped_iff : g.IsTyped ↔
    ∀ e ∈ g.entities, ∀ entry ∈ entries, readEntry entry = .ok e → SaysTyped entry
  loaded : ∀ w others, entriesOf w = .ok others → List.Forall₂ Agree entries others →
    ∃ g', (load w).result = .ok g'
  analysed : g.IsTyped → ∀ settings, ∃ as, (analysesOf g settings).result = .ok as
  stopped : ∀ e ∈ g.entities, Stops g e →
    ∀ settings, ∃ f, (analysesOf g settings).result = .error f

theorem holdsWhatIsSaid_of_load {v : Value} (h : (load v).result = .ok g) :
    ∃ entries, entriesOf v = .ok entries ∧ HoldsWhatIsSaid entries g := by
  obtain ⟨entries, es, hentries, hes, rfl⟩ := load_eq_ok.mp h
  have hread : ∀ e ∈ (Graph.ofEntities es).entities, ∃ entry ∈ entries,
      readEntry entry = .ok e := by
    intro e he
    obtain he | he := Graph.mem_foldl_add he
    · exact mem_of_mapM_eq_ok hes he
    · cases he
  refine ⟨entries, hentries, hread, ?_, ?_, ?_, ?_⟩
  · constructor
    · intro hg e he entry _ hentry
      exact (readEntry_eq_ok.mp hentry).isTyped_iff.mp (hg e he)
    · intro hclaims e he
      obtain ⟨entry, hmem, hentry⟩ := hread e he
      exact (readEntry_eq_ok.mp hentry).isTyped_iff.mpr (hclaims e he entry hmem hentry)
  · exact fun w others hothers hagree => exists_load_of_agree h hentries hothers hagree
  · exact fun hg settings => exists_analyses hg settings
  · exact fun e he hstops settings => exists_error_of_stops he hstops settings

def numberedTable : Value :=
  .record [("entities", .list [.record [("name", .text "orders"), ("table", .int 5)]])]

def numberedOrders : Entity := { name := "orders", table := .int 5 }

theorem holdsWhatIsSaid_of_load_numberedTable :
    (load numberedTable).result = .ok (.ofEntities [numberedOrders]) ∧
    ∃ entries, entriesOf numberedTable = .ok entries ∧
      HoldsWhatIsSaid entries (.ofEntities [numberedOrders]) :=
  have h : (load numberedTable).result = .ok (.ofEntities [numberedOrders]) := rfl
  ⟨h, holdsWhatIsSaid_of_load h⟩

/-- The number is kept as the table. -/
theorem not_isTyped_of_load_numberedTable :
    ¬ ∀ (v : Value) (g : Graph), (load v).result = .ok g → g.IsTyped := by
  intro h
  have htyped := h numberedTable (.ofEntities [numberedOrders]) rfl numberedOrders (.head _)
  obtain hnull | ⟨s, htext⟩ := htyped.table
  · cases hnull
  · cases htext

end Analyzer

end SchemaJoins
