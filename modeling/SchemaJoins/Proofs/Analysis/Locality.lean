import SchemaJoins.Proofs.Analysis.Cycles

/-! # What an analysis reads of a graph

The analysis of an entity reads the entity itself, the primary keys of the entities
that its associations lead to, and the fields of the junctions between them. Graphs
that agree on these cannot be told apart by the analysis, except for its cycles,
which run through the whole graph, and its dimensions, which look for a companion in
the whole graph.
-/

namespace SchemaJoins

open Schema

namespace Schema.Graph

variable {g g' : Graph} {v : Value}

/-- Both graphs have an entity of the name with the same fields, or neither has one. -/
def SameFields (g g' : Graph) (v : Value) : Prop :=
  ∀ name, v = .text name → (g.find? name).map (·.fieldNames) = (g'.find? name).map (·.fieldNames)

theorem SameFields.findValue?_cases (h : g.SameFields g' v) :
    (∃ f, g.findValue? v = .error f ∧ g'.findValue? v = .error f) ∨
      ∃ found found', g.findValue? v = .ok found ∧ g'.findValue? v = .ok found' ∧
        found.map (·.fieldNames) = found'.map (·.fieldNames) := by
  unfold Graph.findValue?
  cases v.requireHashable with
  | error f => exact .inl ⟨f, rfl, rfl⟩
  | ok _ =>
    cases v with
    | text name => exact .inr ⟨_, _, rfl, rfl, h name rfl⟩
    | _ => exact .inr ⟨none, none, rfl, rfl, rfl⟩

/-- Both graphs hold the entity, and what its associations read of other entities is
the same in both: the primary key of the related entity, and the fields of the
junction when there is to be one. -/
structure AgreeAround (g g' : Graph) (e : Entity) : Prop where
  held : g.find? e.name = some e
  held' : g'.find? e.name = some e
  related : ∀ a ∈ e.associations,
    Relationship.relatedPrimaryKey g a = Relationship.relatedPrimaryKey g' a
  junctions : ∀ a ∈ e.associations, Relationship.declaredKind? a.kind = some .manyToMany →
    SameFields g g' (Relationship.junctionOf a)

end Schema.Graph

namespace Relationship

variable {g g' : Graph} {e : Entity} {a : Association} {r : Relationship}

theorem classifyAssociation_congr (h : relatedPrimaryKey g a = relatedPrimaryKey g' a) :
    classifyAssociation g e a = classifyAssociation g' e a := by
  have hkeys : directKeys g e a = directKeys g' e a := by
    funext kind
    cases kind with
    | belongsTo => rw [directKeys, directKeys, h]
    | hasOne => rfl
    | hasMany => rfl
  unfold classifyAssociation classifyDirect classifyThrough
  rw [h, hkeys]

theorem classifyEach_congr {as : List Association}
    (h : ∀ a ∈ as, relatedPrimaryKey g a = relatedPrimaryKey g' a) :
    classifyEach g e as = classifyEach g' e as := by
  induction as with
  | nil => rfl
  | cons a as ih =>
    obtain ⟨ha, has⟩ := List.forall_mem_cons.mp h
    rw [classifyEach, classifyEach, classifyAssociation_congr ha, ih has]

def SameJunction (g g' : Graph) (r : Relationship) : Prop :=
  ∀ junction, r.junction? = some junction → g.SameFields g' junction

end Relationship

theorem Schema.Graph.AgreeAround.sameJunction {g g' : Graph} {e : Entity}
    {rs : List Relationship} (h : g.AgreeAround g' e)
    (hrs : (Relationship.ofEntity g e).result = .ok rs) :
    ∀ r ∈ rs, r.SameJunction g g' := by
  intro r hr junction hj
  obtain ⟨a, ha, hclassified⟩ := (Relationship.mem_classifyEach hrs).mp hr
  obtain ⟨rfl, -⟩ := Relationship.junction_of_classifyAssociation hclassified hj
  exact h.junctions a ha (Relationship.declaredKind?_of_junction hclassified hj)

namespace JoinConfig

variable {g g' : Graph} {r : Relationship}

theorem shaped_congr (h : r.SameJunction g g') (base : JoinConfig) :
    shaped g r base = shaped g' r base := by
  unfold shaped
  split
  · rfl
  · rfl
  · rename_i junction _ _ _ _ hs
    have hj : r.junction? = some junction := by rw [Relationship.junction?, hs]
    obtain ⟨f, hf, hf'⟩ | ⟨found, found', hf, hf', hfields⟩ := (h junction hj).findValue?_cases
    · rw [hf, hf']
    · rw [hf, hf']
      refine congrArg Except.ok ?_
      rw [hfields]

theorem build_congr (h : r.SameJunction g g') (override : Value) :
    build g r override = build g' r override := by
  unfold build
  simp only [shaped_congr h]

end JoinConfig

namespace Analyzer

variable {z z' : Analyzer} {e : Entity} {rs : List Relationship}

theorem defaultJoins_congr (h : ∀ r ∈ rs, r.SameJunction z.graph z'.graph) (taken : List Value) :
    z.defaultJoins e taken rs = z'.defaultJoins e taken rs := by
  induction rs generalizing taken with
  | nil => rfl
  | cons r rs ih =>
    obtain ⟨hr, hrs⟩ := List.forall_mem_cons.mp h
    rw [defaultJoins, defaultJoins]
    simp only [ih hrs, JoinConfig.build_congr hr]

theorem junctionWarning?_congr {r : Relationship} (h : r.SameJunction z.graph z'.graph) :
    z.junctionWarning? e r = z'.junctionWarning? e r := by
  unfold junctionWarning?
  cases hj : r.junction? with
  | none => rfl
  | some junction =>
    dsimp only
    obtain ⟨f, hf, hf'⟩ | ⟨found, found', hf, hf', hfields⟩ := (h junction hj).findValue?_cases
    · rw [hf, hf']
    · have hsome : found.isSome = found'.isSome := by
        rw [← Option.isSome_map (f := Entity.fieldNames), hfields, Option.isSome_map]
      rw [hf, hf']
      show (if found.isSome then _ else _) = if found'.isSome then _ else _
      rw [hsome]

theorem otherWarnings_congr {joins : List JoinConfig} {hierarchies : List Hierarchy}
    (hoptimizer : z.optimizer = z'.optimizer) (h : ∀ r ∈ rs, r.SameJunction z.graph z'.graph) :
    z.otherWarnings e rs joins hierarchies = z'.otherWarnings e rs joins hierarchies := by
  have hjunctions : rs.mapM (z.junctionWarning? e) = rs.mapM (z'.junctionWarning? e) :=
    mapM_congr fun r hr => junctionWarning?_congr (h r hr)
  unfold otherWarnings kindWarning? recursionWarnings
  rw [hjunctions, hoptimizer]

def IsAboutCycle (w : String) : Prop := Starts "Circular dependency detected: " w

instance (w : String) : Decidable (IsAboutCycle w) := inferInstanceAs (Decidable (Starts _ _))

theorem filter_warningsFor {joins : List JoinConfig} {hierarchies : List Hierarchy}
    {cycles : List (List Value)} {warnings : List String}
    (h : z.warningsFor e rs joins hierarchies cycles = .ok warnings) :
    z.otherWarnings e rs joins hierarchies = .ok (warnings.filter (¬ IsAboutCycle ·)) := by
  obtain ⟨lines, rest, rfl, hlines, hrest⟩ := exists_cycleLines h
  have hlines : lines.filter (¬ IsAboutCycle ·) = [] := by
    refine List.filter_eq_nil_iff.mpr fun w hw => ?_
    obtain ⟨cycle, -, names, -, rfl⟩ := exists_of_mem_right hlines hw
    have hw : IsAboutCycle ("Circular dependency detected: " ++ " -> ".intercalate names) :=
      starts_append _ _
    simpa using hw
  have hrest' : rest.filter (¬ IsAboutCycle ·) = rest := by
    refine List.filter_eq_self.mpr fun w hw => ?_
    have hstart : Starts "Circular dependency detected" "Circular dependency detected: " := by
      decide
    have hw : ¬ IsAboutCycle w := mt hstart.trans (not_starts_otherWarnings hrest w hw)
    simpa using hw
  rw [List.filter_append, hlines, hrest', List.nil_append, hrest]

end Analyzer

/-- The analyses agree on everything that is not read from the whole graph. -/
structure Analysis.AgreesWith (a a' : Analysis) : Prop where
  joins : a.joins = a'.joins
  relationships : a.relationships = a'.relationships
  hierarchies : a.hierarchies = a'.hierarchies
  junctions : a.junctions = a'.junctions
  suggestions : a.suggestions = a'.suggestions
  warnings : a.warnings.filter (¬ Analyzer.IsAboutCycle ·) =
    a'.warnings.filter (¬ Analyzer.IsAboutCycle ·)

namespace Analyzer

variable {z z' : Analyzer} {e : Entity} {a a' : Analysis}

theorem agreesWith_of_analyzeEntity {cycles cycles' : List (List Value)}
    (h : z.graph.AgreeAround z'.graph e) (hoptimizer : z.optimizer = z'.optimizer)
    (ha : (z.analyzeEntity cycles e).result = .ok a)
    (ha' : (z'.analyzeEntity cycles' e).result = .ok a') : a.AgreesWith a' := by
  obtain ⟨rs, ha⟩ := analyzeEntity_eq_ok.mp ha
  obtain ⟨rs', ha'⟩ := analyzeEntity_eq_ok.mp ha'
  have hclassified : Relationship.ofEntity z.graph e = Relationship.ofEntity z'.graph e :=
    Relationship.classifyEach_congr h.related
  obtain rfl : rs = rs' := by
    have hrs := ha'.classified
    rw [← hclassified, ha.classified] at hrs
    exact Except.ok.inj hrs
  have hjunctions := h.sameJunction ha.classified
  have hjoins : a.joins = a'.joins := by
    obtain ⟨built, hbuilt, hfitted⟩ := ha.joins
    obtain ⟨built', hbuilt', hfitted'⟩ := ha'.joins
    rw [defaultJoins_congr hjunctions, hbuilt'] at hbuilt
    obtain rfl := Except.ok.inj hbuilt
    rw [hoptimizer, hfitted'] at hfitted
    exact (Except.ok.inj hfitted).symm
  have hhierarchies : a.hierarchies = a'.hierarchies :=
    Except.ok.inj (ha.hierarchies.symm.trans ha'.hierarchies)
  refine ⟨hjoins, ?_, hhierarchies, ?_, ?_, ?_⟩
  · rw [ha.relationships, ha'.relationships]
  · rw [ha.junctions, ha'.junctions]
  · have hs := ha.suggestions
    rw [hjoins, ha'.suggestions] at hs
    exact (Except.ok.inj hs).symm
  · have hw := filter_warningsFor ha.warnings
    rw [otherWarnings_congr hoptimizer hjunctions, hjoins, hhierarchies,
      filter_warningsFor ha'.warnings] at hw
    exact (Except.ok.inj hw).symm

/-- Whatever two graphs hold besides, the analyses of an entity under the same settings
agree if the graphs agree on what its associations read. -/
theorem agreesWith_of_agreeAround {g g' : Graph} (h : g.AgreeAround g' e) {settings : Settings}
    (hz : (create g settings).result = .ok z) (hz' : (create g' settings).result = .ok z')
    {asked asked' : Option String} {as as' : List Analysis}
    (has : (z.analyzeSchema asked).result = .ok as)
    (has' : (z'.analyzeSchema asked').result = .ok as')
    (ha : a ∈ as) (ha' : a' ∈ as') (hname : a.entity = e.name) (hname' : a'.entity = e.name) :
    a.AgreesWith a' := by
  obtain ⟨optimizer, hoptimizer, hz⟩ := Logged.result_bind_eq_ok.mp hz
  obtain ⟨optimizer', hoptimizer', hz'⟩ := Logged.result_bind_eq_ok.mp hz'
  cases hz
  cases hz'
  obtain ⟨own, cycles, hown, hanalysis⟩ := mem_analyzeSchema has ha
  obtain ⟨own', cycles', hown', hanalysis'⟩ := mem_analyzeSchema has' ha'
  obtain rfl : own = e := by
    rw [← (of_analyzeEntity hanalysis).1, hname, h.held] at hown
    exact (Option.some.inj hown).symm
  obtain rfl : own' = own := by
    rw [← (of_analyzeEntity hanalysis').1, hname', h.held'] at hown'
    exact (Option.some.inj hown').symm
  refine agreesWith_of_analyzeEntity h ?_ hanalysis hanalysis'
  exact Except.ok.inj (hoptimizer.symm.trans hoptimizer')

/-- A user with a team, and with roles through a junction that no graph holds. -/
def memberUser : Entity :=
  { name := "User"
    associations := [
      { name := "team", kind := "belongs_to", relatedEntity := "Team" },
      { name := "roles", kind := "many_to_many", relatedEntity := "Role"
        junctionEntity := .text "user_roles", junctionKeys := some ("user_id", "role_id") }] }

def ownedTeam : Graph := .ofEntities [memberUser, referring "Team" "owner" "User"]

def loneUser : Graph := .ofEntities [memberUser, { name := "Role" }]

def ownerRelationship : Relationship :=
  { name := .text "owner", source := .text "Team", target := .text "User", throughPath := []
    shape := .direct .belongsTo ["owner_id"] ["id"] }

def memberRelationships : List Relationship :=
  [{ name := .text "team", source := .text "User", target := .text "Team", throughPath := []
     shape := .direct .belongsTo ["team_id"] ["id"] },
   { name := .text "roles", source := .text "User", target := .text "Role", throughPath := []
     shape := .manyToMany (.text "user_roles") (.text "user_id") (.text "role_id") "id" "id" }]

def memberAnalysis (cycles : List (List Value)) (lines : List String) : Analysis :=
  { entity := "User"
    joins := [
      { name := .text "team"
        kind := .inner
        target := .text "Team"
        conditions := [(.text "team_id", .text "id")]
        strategy := .eager
        metadata := [("cardinality", .text "belongs_to"), ("foreign_key", .text "team_id"),
          ("owner_key", .text "team_id")] },
      { name := .text "roles"
        kind := .inner
        target := .text "Role"
        conditions := [(.text "id", .text "user_id"), (.text "role_id", .text "id")]
        through := some [.text "user_roles"]
        strategy := .lazy
        metadata := [("cardinality", .text "many_to_many"), ("foreign_key", .text "user_id"),
          ("owner_key", .text "id"), ("junction_table", .text "user_roles"),
          ("join_keys", .list [.text "user_id", .text "role_id"])] }]
    relationships := [(.direct .belongsTo, [.text "team"]), (.manyToMany, [.text "roles"])]
    hierarchies := [], dimensions := [], junctions := [.text "user_roles"], cycles
    warnings := lines ++
      ["Junction entity 'user_roles' of User.roles is not part of the schema graph"]
    suggestions := ["Consider adding index on User.team_id"] }

theorem analyzeSchema_ownedTeam : ((byDefault ownedTeam).analyzeSchema (some "User")).result =
    .ok [memberAnalysis [teamsCycle] ["Circular dependency detected: Team -> User -> Team"]] := by
  have hsorted : (byDefault ownedTeam).graph.sorted =
      [referring "Team" "owner" "User", memberUser] :=
    Graph.sorted_eq (.swap _ _ []) (by decide)
  have hfound : Relationship.cycles 3 false (ownerRelationship :: memberRelationships) =
      .ok [teamsCycle] :=
    (Relationship.cycles_of_pairwise rfl (by decide)).trans rfl
  have hcycles : (byDefault ownedTeam).cyclesIfWanted.result = .ok [teamsCycle] :=
    cyclesIfWanted_of_sorted rfl hsorted hfound rfl
  have huser : ((byDefault ownedTeam).analyzeEntity [teamsCycle] memberUser).result =
      .ok (memberAnalysis [teamsCycle] ["Circular dependency detected: Team -> User -> Team"]) := by
    refine analyzeEntity_eq_ok.mpr ⟨memberRelationships, rfl, rfl, ⟨_, rfl, rfl⟩, rfl, rfl, ?_, rfl,
      rfl, rfl, rfl⟩
    rw [Dimension.detect, Dimension.companion?, Graph.findByName?, hsorted]
    rfl
  exact analyzeSchema_some_eq_ok.mpr ⟨[teamsCycle], memberUser, _, hcycles, rfl, huser, rfl⟩

theorem analyzeSchema_loneUser : ((byDefault loneUser).analyzeSchema (some "User")).result =
    .ok [memberAnalysis [] []] := by
  have hsorted : (byDefault loneUser).graph.sorted = [{ name := "Role" }, memberUser] :=
    Graph.sorted_eq (.swap _ _ []) (by decide)
  have hfound : Relationship.cycles 3 false memberRelationships = .ok [] :=
    (Relationship.cycles_of_pairwise rfl (by decide)).trans rfl
  have hcycles : (byDefault loneUser).cyclesIfWanted.result = .ok [] :=
    cyclesIfWanted_of_sorted rfl hsorted hfound rfl
  have huser : ((byDefault loneUser).analyzeEntity [] memberUser).result =
      .ok (memberAnalysis [] []) := by
    refine analyzeEntity_eq_ok.mpr ⟨memberRelationships, rfl, rfl, ⟨_, rfl, rfl⟩, rfl, rfl, ?_, rfl,
      rfl, rfl, rfl⟩
    rw [Dimension.detect, Dimension.companion?, Graph.findByName?, hsorted]
    rfl
  exact analyzeSchema_some_eq_ok.mpr ⟨[], memberUser, _, hcycles, rfl, huser, rfl⟩

theorem agreeAround_memberUser : ownedTeam.AgreeAround loneUser memberUser := by
  refine ⟨rfl, rfl, ?_, ?_⟩
  · simp only [memberUser, List.forall_mem_cons]
    exact ⟨rfl, rfl, nofun⟩
  · simp only [memberUser, List.forall_mem_cons]
    refine ⟨fun h => ?_, fun _ name hname => ?_, nofun⟩
    · have hkind : Relationship.declaredKind? "belongs_to" = some (.direct .belongsTo) := rfl
      rw [hkind] at h
      cases h
    · cases hname
      rfl

theorem agreesWith_of_agreeAround_memberUser :
    ownedTeam.AgreeAround loneUser memberUser ∧
    (create ownedTeam {}).result = .ok (byDefault ownedTeam) ∧
    (create loneUser {}).result = .ok (byDefault loneUser) ∧
    ∃ as as' a a', ((byDefault ownedTeam).analyzeSchema (some "User")).result = .ok as ∧
      ((byDefault loneUser).analyzeSchema (some "User")).result = .ok as' ∧
      a ∈ as ∧ a' ∈ as' ∧ a.entity = memberUser.name ∧ a'.entity = memberUser.name ∧
      a.AgreesWith a' := by
  refine ⟨agreeAround_memberUser, create_byDefault ownedTeam, create_byDefault loneUser, _, _, _, _,
    analyzeSchema_ownedTeam, analyzeSchema_loneUser, List.mem_singleton_self _,
    List.mem_singleton_self _, rfl, rfl, ?_⟩
  exact agreesWith_of_agreeAround agreeAround_memberUser (create_byDefault ownedTeam)
    (create_byDefault loneUser) analyzeSchema_ownedTeam analyzeSchema_loneUser
    (List.mem_singleton_self _) (List.mem_singleton_self _) rfl rfl

end Analyzer

end SchemaJoins
