import SchemaJoins.Proofs.Analysis.Joins
import SchemaJoins.Proofs.Data.Entries
import SchemaJoins.Proofs.Join.Conditions
import SchemaJoins.Proofs.Relationship.Cycles

/-! # Where a join comes from

The joins of an analysis come from the first association of each name that is
classified. Their target, keys and cardinality are those of its relationship.
The kind that they ask for is looked up by name once more and is that of the
first association of the name, also if this one was skipped.
-/

namespace SchemaJoins

open Schema Relationship

namespace JoinConfig

variable {g : Graph} {r : Relationship} {asked : Value} {c : JoinConfig}

def unfittedKind (c : JoinConfig) : Except Fault JoinKind := do
  return (← c.replacedKind).getD c.kind

/-- The join has its name, target, keys and cardinality from a relationship. -/
structure StemsFrom (r : Relationship) (c : JoinConfig) : Prop where
  name : c.name = r.name
  target : c.target = r.target
  conditions : c.conditions = conditionsOf r.shape
  cardinality : c.metadata? "cardinality" = some (.text r.effectiveCardinality.name)
  owner_key : c.metadata? "owner_key" = some (.text (keyText r.ownerKey))
  foreign_key : ∃ key, Value.joinTexts "," r.foreignKey = .ok key ∧
    c.metadata? "foreign_key" = some (.text key)

theorem stemsFrom_of_build (h : (build g r asked).result = .ok c) :
    StemsFrom r c ∧ c.kind = kindNamed r asked := by
  have hunfitted := isUnfitted_of_build h
  have hconditions := conditions_of_build h
  obtain ⟨kind, hkind, h⟩ := Logged.result_bind_eq_ok.mp h
  obtain ⟨key, hkey, h⟩ := Logged.result_bind_eq_ok.mp h
  obtain ⟨-, hsame, htarget, added, hadded, -⟩ := of_shaped h
  refine ⟨⟨hunfitted.name, htarget, hconditions, hunfitted.cardinality, ?_, key, hkey, ?_⟩, ?_⟩
  · rw [metadata?, hadded]
    rfl
  · rw [metadata?, hadded]
    rfl
  · rw [hsame]
    exact (requestedKind_eq_ok.mp hkind).2.symm

end JoinConfig

namespace Fitting

variable {f : Fitting} {mode : LoadStrategy} {capabilities : Adapter.Capabilities}

theorem stemsFrom_fitted (h : f.IsFit mode capabilities)
    (hbuilt : f.built.StemsFrom f.relationship) : f.fitted.StemsFrom f.relationship := by
  have hrest := h.rest
  constructor
  · rw [← hbuilt.name, ← hrest]
  · rw [← hbuilt.target, ← hrest]
  · rw [← hbuilt.conditions, ← hrest]
  · rw [h.metadata _ (by decide), hbuilt.cardinality]
  · rw [h.metadata _ (by decide), hbuilt.owner_key]
  · rw [h.metadata _ (by decide)]
    exact hbuilt.foreign_key

theorem unfittedKind_fitted (h : f.IsFit mode capabilities) :
    f.fitted.unfittedKind = .ok f.built.kind := by
  rw [JoinConfig.unfittedKind, replacedKind_of_isFit h]
  by_cases hd : f.IsDowngraded
  · rw [if_pos hd]
    rfl
  · rw [if_neg hd]
    exact congrArg Except.ok (not_not.mp hd)

end Fitting

namespace Relationship

variable {g : Graph} {e : Entity} {a : Association} {r : Relationship} {rs seen : List Relationship}

/-- The association is classified as the relationship, and those of its name that
come before it are skipped. -/
structure IsFirstClassified (g : Graph) (e : Entity) (a : Association) (r : Relationship) :
    Prop where
  classified : (classifyAssociation g e a).result = .ok (some r)
  first : ∃ before after, e.associations = before ++ a :: after ∧
    ∀ b ∈ before, b.name = a.name → (classifyAssociation g e b).result = .ok none

theorem exists_split_of_classifyEach {before after : List Relationship} :
    {as : List Association} → (classifyEach g e as).result = .ok (before ++ r :: after) →
    ∃ earlier a later, as = earlier ++ a :: later ∧
      (classifyAssociation g e a).result = .ok (some r) ∧
      (classifyEach g e earlier).result = .ok before
  | [], h => by simpa using Except.ok.inj h
  | a :: as, h => by
    obtain ⟨found, hfound, h⟩ := Logged.result_bind_eq_ok.mp h
    obtain ⟨others, hothers, h⟩ := Logged.result_bind_eq_ok.mp h
    have hsplit : found.toList ++ others = before ++ r :: after := Except.ok.inj h
    have hcons {earlier : List Association} {rest : List Relationship}
        (hrest : (classifyEach g e earlier).result = .ok rest) :
        (classifyEach g e (a :: earlier)).result = .ok (found.toList ++ rest) :=
      Logged.result_bind_eq_ok.mpr ⟨found, hfound, Logged.result_bind_eq_ok.mpr ⟨rest, hrest, rfl⟩⟩
    cases found with
    | none =>
      obtain rfl : others = before ++ r :: after := hsplit
      obtain ⟨earlier, b, later, rfl, hb, hearlier⟩ := exists_split_of_classifyEach hothers
      exact ⟨a :: earlier, b, later, rfl, hb, hcons hearlier⟩
    | some s =>
      cases before with
      | nil =>
        obtain ⟨rfl, rfl⟩ := List.cons.inj hsplit
        exact ⟨[], a, as, rfl, hfound, rfl⟩
      | cons t before =>
        obtain ⟨rfl, rfl⟩ := List.cons.inj hsplit
        obtain ⟨earlier, b, later, rfl, hb, hearlier⟩ := exists_split_of_classifyEach hothers
        exact ⟨a :: earlier, b, later, rfl, hb, hcons hearlier⟩

theorem isFirstClassified_of_split {before after : List Relationship}
    (h : (ofEntity g e).result = .ok (before ++ r :: after))
    (hnames : ∀ s ∈ before, s.name ≠ r.name) : ∃ a, IsFirstClassified g e a r := by
  obtain ⟨earlier, a, later, hsplit, ha, hearlier⟩ := exists_split_of_classifyEach h
  refine ⟨a, ha, earlier, later, hsplit, fun b hb hname => ?_⟩
  obtain ⟨found, hfound⟩ := exists_classifyAssociation g e b
  cases found with
  | none => exact hfound
  | some s =>
    -- a relationship of this name would come before
    have hs : s ∈ before := (mem_classifyEach hearlier).mpr ⟨b, hb, hfound⟩
    obtain ⟨_, rfl⟩ := along_of_classifyAssociation ha
    obtain ⟨_, rfl⟩ := along_of_classifyAssociation hfound
    exact absurd (congrArg Value.text hname) (hnames _ hs)

theorem IsFirstClassified.association? (h : IsFirstClassified g e a r) :
    ∃ first, e.association? a.name = some first ∧
      (first = a ∨ (classifyAssociation g e first).result = .ok none) := by
  obtain ⟨before, after, hsplit, hskipped⟩ := h.first
  rw [Entity.association?, hsplit, List.find?_append]
  cases hfind : before.find? (·.name == a.name) with
  | none => exact ⟨a, by simp, .inl rfl⟩
  | some first =>
    have hname := List.find?_some hfind
    have hmem := List.mem_of_find?_eq_some hfind
    exact ⟨first, rfl, .inr (hskipped first hmem (beq_iff_eq.mp hname))⟩

end Relationship

namespace Analyzer

variable {z : Analyzer} {e : Entity} {a : Analysis} {r : Relationship}
  {rs seen : List Relationship}

theorem exists_split_of_mem_loop (hnames : ∀ s ∈ rs, s.name.IsText)
    (h : r ∈ List.eraseDupsBy.loop sameName rs seen) :
    r ∈ seen ∨ ∃ before after, rs = before ++ r :: after ∧
      ∀ s ∈ before ++ seen, s.name ≠ r.name := by
  induction rs generalizing seen with
  | nil => exact .inl (List.mem_reverse.mp h)
  | cons x rs ih =>
    obtain ⟨⟨name, hx⟩, hrest⟩ := List.forall_mem_cons.mp hnames
    have hsame (s : Relationship) : sameName x s = true ↔ s.name = x.name := by
      rw [sameName, hx, Value.text_sameKey]
    unfold List.eraseDupsBy.loop at h
    cases hany : seen.any (sameName x) with
    | true =>
      rw [hany] at h
      obtain hr | ⟨before, after, rfl, hfirst⟩ := ih hrest h
      · exact .inl hr
      · obtain ⟨s, hs, hxs⟩ := List.any_eq_true.mp hany
        refine .inr ⟨x :: before, after, rfl, List.forall_mem_cons.mpr ⟨?_, hfirst⟩⟩
        rw [← (hsame s).mp hxs]
        exact hfirst s (List.mem_append_right _ hs)
    | false =>
      rw [hany] at h
      obtain hr | ⟨before, after, rfl, hfirst⟩ := ih hrest h
      · obtain rfl | hr := List.mem_cons.mp hr
        · refine .inr ⟨[], rs, rfl, fun s hs hname => ?_⟩
          exact List.any_eq_false.mp hany s hs ((hsame s).mpr hname)
        · exact .inl hr
      · refine .inr ⟨x :: before, after, rfl, fun s hs => hfirst s ?_⟩
        simp only [List.cons_append, List.mem_cons, List.mem_append] at hs ⊢
        tauto

theorem isFirstClassified_of_mem {g : Graph} (hrs : (ofEntity g e).result = .ok rs)
    (h : r ∈ rs.eraseDupsBy sameName) : ∃ a, IsFirstClassified g e a r := by
  have hnames : ∀ s ∈ rs, s.name.IsText := by
    intro s hs
    obtain ⟨b, -, hb⟩ := (mem_classifyEach hrs).mp hs
    obtain ⟨_, rfl⟩ := along_of_classifyAssociation hb
    exact ⟨b.name, rfl⟩
  obtain hnil | ⟨before, after, rfl, hfirst⟩ := exists_split_of_mem_loop hnames h
  · cases hnil
  · exact isFirstClassified_of_split hrs fun s hs => hfirst s (List.mem_append_left _ hs)

/-- A join of an analysis comes from the first association of its name that is
classified. The kind that it asks for is that of the first association of the name
at all, which is the same one unless some were skipped. -/
theorem unfittedKind_eq_iff {asked : Option String} {as : List Analysis} {c : JoinConfig}
    (has : (z.analyzeSchema asked).result = .ok as) (ha : a ∈ as) (hc : c ∈ a.joins) :
    ∃ e own first r, z.graph.find? a.entity = some e ∧ IsFirstClassified z.graph e own r ∧
      c.StemsFrom r ∧ e.association? own.name = some first ∧
      (first = own ∨ (classifyAssociation z.graph e first).result = .ok none) ∧
      c.unfittedKind = .ok (JoinConfig.kindNamed r first.joinKind) ∧
      (c.unfittedKind = .ok (JoinConfig.kindNamed r own.joinKind) ↔
        JoinConfig.kindNamed r first.joinKind = JoinConfig.kindNamed r own.joinKind) := by
  obtain ⟨e, cycles, he, h⟩ := mem_analyzeSchema has ha
  obtain ⟨hname, rs, built, _, _, hrs, hbuilt, hfitted, -⟩ := of_analyzeEntity h
  obtain ⟨fs, hkept, hjoins, hall⟩ := exists_fittings hbuilt hfitted
  rw [← hjoins] at hc
  obtain ⟨f, hf, rfl⟩ := List.mem_map.mp hc
  obtain ⟨hfbuilt, hffitted⟩ := hall f hf
  have hfit : f.IsFit z.optimizer.strategy z.optimizer.capabilities :=
    Optimizer.isFit_of_optimize (JoinConfig.isUnfitted_of_build hfbuilt) hffitted
  obtain ⟨hstems, hkind⟩ := JoinConfig.stemsFrom_of_build hfbuilt
  have hmem : f.relationship ∈ rs.eraseDupsBy sameName :=
    hkept ▸ List.mem_map_of_mem hf
  obtain ⟨own, hown⟩ := isFirstClassified_of_mem hrs hmem
  obtain ⟨first, hfirst, hskipped⟩ := hown.association?
  have hasked : askedKind e f.relationship = first.joinKind := by
    obtain ⟨_, hr⟩ := along_of_classifyAssociation hown.classified
    rw [askedKind, hr]
    exact congrArg (fun found => (found.map (·.joinKind)).getD .null) hfirst
  have hunfitted : f.fitted.unfittedKind =
      .ok (JoinConfig.kindNamed f.relationship first.joinKind) := by
    rw [Fitting.unfittedKind_fitted hfit, hkind, hasked]
  rw [← hname] at he
  refine ⟨e, own, first, f.relationship, he, hown, Fitting.stemsFrom_fitted hfit hstems, hfirst,
    hskipped, hunfitted, ?_⟩
  rw [hunfitted, Except.ok.injEq]

def misspelledOrder : Association :=
  { name := "order", kind := "references", relatedEntity := "Order", joinKind := .text "full" }

def lineOrder : Association :=
  { name := "order", kind := "belongs_to", relatedEntity := "Order" }

def orderLine : Entity := { name := "Line", associations := [misspelledOrder, lineOrder] }

def orderLineAnalyzer : Analyzer := byDefault (.ofEntities [{ name := "Order" }, orderLine])

def orderRelationship : Relationship :=
  ⟨.text "order", .text "Line", .text "Order", [], .direct .belongsTo ["order_id"] ["id"]⟩

def orderJoin : JoinConfig :=
  { name := .text "order"
    kind := .full
    target := .text "Order"
    conditions := [(.text "order_id", .text "id")]
    strategy := .eager
    metadata := [("cardinality", .text "belongs_to"), ("foreign_key", .text "order_id"),
      ("owner_key", .text "order_id")] }

def orderLineAnalysis : Analysis :=
  { entity := "Line"
    joins := [orderJoin]
    relationships := [(.direct .belongsTo, [.text "order"])]
    hierarchies := [], dimensions := [], junctions := [], cycles := [], warnings := []
    suggestions := ["Consider adding index on Line.order_id"] }

theorem analyzeSchema_orderLine :
    (orderLineAnalyzer.analyzeSchema (some "Line")).result = .ok [orderLineAnalysis] := by
  have hsorted : orderLineAnalyzer.graph.sorted = [orderLine, { name := "Order" }] :=
    Graph.sorted_eq (.swap _ _ []) (by decide)
  have hfound : Relationship.cycles 3 false [orderRelationship] = .ok [] :=
    (Relationship.cycles_of_pairwise rfl (by decide)).trans rfl
  have hcycles : orderLineAnalyzer.cyclesIfWanted.result = .ok [] :=
    cyclesIfWanted_of_sorted rfl hsorted hfound rfl
  have hline : (orderLineAnalyzer.analyzeEntity [] orderLine).result = .ok orderLineAnalysis := by
    refine analyzeEntity_eq_ok.mpr
      ⟨[orderRelationship], rfl, rfl, ⟨_, rfl, rfl⟩, rfl, rfl, ?_, rfl, rfl, rfl, rfl⟩
    rw [Dimension.detect, Dimension.companion?, Graph.findByName?, hsorted]
    rfl
  exact analyzeSchema_some_eq_ok.mpr
    ⟨[], orderLine, orderLineAnalysis, hcycles, rfl, hline, rfl⟩

theorem unfittedKind_eq_iff_orderLine :
    (orderLineAnalyzer.analyzeSchema (some "Line")).result = .ok [orderLineAnalysis] ∧
    orderLineAnalysis ∈ [orderLineAnalysis] ∧ orderJoin ∈ orderLineAnalysis.joins ∧
    ∃ e own first r, orderLineAnalyzer.graph.find? orderLineAnalysis.entity = some e ∧
      IsFirstClassified orderLineAnalyzer.graph e own r ∧
      orderJoin.StemsFrom r ∧ e.association? own.name = some first ∧
      (first = own ∨ (classifyAssociation orderLineAnalyzer.graph e first).result = .ok none) ∧
      orderJoin.unfittedKind = .ok (JoinConfig.kindNamed r first.joinKind) ∧
      (orderJoin.unfittedKind = .ok (JoinConfig.kindNamed r own.joinKind) ↔
        JoinConfig.kindNamed r first.joinKind = JoinConfig.kindNamed r own.joinKind) := by
  have ha : orderLineAnalysis ∈ [orderLineAnalysis] := List.mem_singleton_self _
  have hc : orderJoin ∈ orderLineAnalysis.joins := List.mem_singleton_self _
  exact ⟨analyzeSchema_orderLine, ha, hc, unfittedKind_eq_iff analyzeSchema_orderLine ha hc⟩

/-- The join of an order has the kind that the skipped association asks for, and
not the one of the association that it comes from. -/
theorem unfittedKind_ne_orderLine :
    (orderLineAnalyzer.analyzeSchema (some "Line")).result = .ok [orderLineAnalysis] ∧
    orderJoin ∈ orderLineAnalysis.joins ∧ orderJoin.StemsFrom orderRelationship ∧
    IsFirstClassified orderLineAnalyzer.graph orderLine lineOrder orderRelationship ∧
    orderJoin.unfittedKind = .ok .full ∧
    orderJoin.unfittedKind ≠ .ok (JoinConfig.kindNamed orderRelationship lineOrder.joinKind) := by
  refine ⟨analyzeSchema_orderLine, List.mem_singleton_self _, ?_, ?_, rfl, nofun⟩
  · exact ⟨rfl, rfl, rfl, rfl, rfl, _, rfl, rfl⟩
  · refine ⟨rfl, [misspelledOrder], [], rfl, fun b hb _ => ?_⟩
    obtain rfl := List.mem_singleton.mp hb
    rfl

end Analyzer

end SchemaJoins
