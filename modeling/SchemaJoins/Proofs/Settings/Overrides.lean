import SchemaJoins.Proofs.Settings.Reading

/-! # Overriding settings

Overrides can be put into the options of a file before it is read, or over the
settings that were read from it. All settings but the version come out the same.
An open version is looked up once, for the adapter of the file, so that an
overriding adapter keeps the version that the file declares for the other one.
-/

namespace SchemaJoins.Settings

variable {α : Type} {o : Options} {s m u : Settings} {entries defaults : List (Value × Value)}

/-- A setting is what its override says, or what it was before. -/
def IsOverridden (read : Value → Except Fault α) (given : Option Value) (before after : α) : Prop :=
  match given with
  | some v => read v = .ok after
  | none => after = before

theorem IsOverridden.unique {read : Value → Except Fault α} {given : Option Value}
    {before after after' : α} (h : IsOverridden read given before after)
    (h' : IsOverridden read given before after') : after = after' := by
  cases given with
  | none => exact Eq.trans h (Eq.symm h')
  | some v => exact Except.ok.inj (Eq.trans (Eq.symm h) h')

theorem isOverridden_of_file {read : Value → Except Fault α} {given file : Option Value}
    {default : Value} {before after : α} (hbefore : read (file.getD default) = .ok before)
    (hafter : read ((given.or file).getD default) = .ok after) :
    IsOverridden read given before after := by
  cases given with
  | none =>
    rw [Option.none_or, hbefore] at hafter
    exact (Except.ok.inj hafter).symm
  | some v => exact hafter

theorem isOverridden_of_written {read : Value → Except Fault α} {given : Option Value}
    {written default : Value} {before after : α}
    (hwritten : ∀ a, read written = .ok a → a = before)
    (hafter : read ((given.or (some written)).getD default) = .ok after) :
    IsOverridden read given before after := by
  cases given with
  | none => exact hwritten after hafter
  | some v => exact hafter

structure OverriddenBy (o : Options) (s m : Settings) : Prop where
  joinDepth : IsOverridden depthOf (o.get? "join_depth") s.joinDepth m.joinDepth
  joinStrategy : IsOverridden strategyOf (o.get? "join_strategy") s.joinStrategy m.joinStrategy
  adapter : IsOverridden adapterOf (o.get? "adapter") s.adapter m.adapter
  detectCycles : IsOverridden .ok (o.get? "detect_cycles") s.detectCycles m.detectCycles
  includeJunctionEdges : IsOverridden .ok (o.get? "include_junction_edges")
    s.includeJunctionEdges m.includeJunctionEdges

theorem OverriddenBy.unique (h : OverriddenBy o s m) (h' : OverriddenBy o s u) :
    m = { u with adapterVersion := m.adapterVersion } := by
  have hdepth := h.joinDepth.unique h'.joinDepth
  have hstrategy := h.joinStrategy.unique h'.joinStrategy
  have hadapter := h.adapter.unique h'.adapter
  have hcycles := h.detectCycles.unique h'.detectCycles
  have hedges := h.includeJunctionEdges.unique h'.includeJunctionEdges
  obtain ⟨_, _, _, _, _, _⟩ := m
  obtain ⟨_, _, _, _, _, _⟩ := u
  cases hdepth
  cases hstrategy
  cases hadapter
  cases hcycles
  cases hedges
  rfl

section Written

theorem depthOf_written {n : Nat} {a : Nat} (h : depthOf (.int n) = .ok a) : a = n := by
  unfold depthOf at h
  dsimp only at h
  split at h
  · cases h
    simp
  · cases h

theorem strategyOf_written {l a : LoadStrategy} (h : strategyOf (.text l.name) = .ok a) :
    a = l := by
  cases l <;> exact (Except.ok.inj h).symm

theorem adapterOf_written {v : Value} {name a : String} (hname : adapterOf v = .ok name)
    (h : adapterOf (.text name) = .ok a) : a = name := by
  rw [eq_lower_of_adapterOf h, eq_lower_of_adapterOf hname]
  exact Text.lower_lower _

end Written

section Merge

theorem givenOverrides_eq (ho : ∀ e ∈ o, e.2 ≠ .null) : givenOverrides o = o := by
  refine List.filter_eq_self.mpr fun e he => ?_
  obtain ⟨name, v⟩ := e
  cases v with
  | null => exact absurd rfl (ho _ he)
  | _ => rfl

theorem any_of_get?_eq_none {name : String} (h : o.get? name = none) :
    o.any (·.1 == name) = false := by
  rw [Options.get?, Option.map_eq_none_iff, List.find?_eq_none] at h
  simpa using h

theorem get?_append_filter {options : Options} {name : String} :
    Options.get? (o ++ options.filter fun e => !(o.any (·.1 == e.1))) name =
      (o.get? name).or (options.get? name) := by
  rw [get?_append]
  cases h : o.get? name with
  | some v => rfl
  | none =>
    rw [Option.none_or, Option.none_or, Options.get?, List.find?_filter, Options.get?]
    congr 2
    funext e
    by_cases he : e.1 = name
    · simp [he, any_of_get?_eq_none h]
    · simp [he]

theorem reads_of_merge (ho : ∀ e ∈ o, e.2 ≠ .null) (hne : o ≠ []) (h : merge s o = .ok m) :
    Reads (fun name => (o.get? name).or (s.toOptions.get? name)) m := by
  unfold merge at h
  rw [givenOverrides_eq ho] at h
  split at h
  · exact absurd rfl hne
  · have hreads := reads_of_ofOptions h
    have hget : Options.get? (o ++ s.toOptions.filter fun e => !(o.any (·.1 == e.1))) =
        fun name => (o.get? name).or (s.toOptions.get? name) := funext fun _ => get?_append_filter
    rwa [hget] at hreads

theorem versionOf_written (version : Option String) :
    versionOf ((version.map Value.text).getD .null) = version := by
  cases version <;> rfl

theorem overriddenBy_merge {given : String → Option Value} (hs : Reads given s)
    (ho : ∀ e ∈ o, e.2 ≠ .null) (h : merge s o = .ok m) :
    OverriddenBy o s m ∧ m.adapterVersion =
      ((o.get? "adapter_version").map versionOf).getD s.adapterVersion := by
  by_cases hne : o = []
  · subst hne
    cases h
    exact ⟨⟨rfl, rfl, rfl, rfl, rfl⟩, rfl⟩
  · have hm := reads_of_merge ho hne h
    refine ⟨⟨?_, ?_, ?_, ?_, ?_⟩, ?_⟩
    · exact isOverridden_of_written (fun _ => depthOf_written) hm.joinDepth
    · exact isOverridden_of_written (fun _ => strategyOf_written) hm.joinStrategy
    · exact isOverridden_of_written (fun _ => adapterOf_written hs.adapter) hm.adapter
    · exact isOverridden_of_written (fun _ hv => (Except.ok.inj hv).symm)
        (congrArg Except.ok hm.detectCycles)
    · exact isOverridden_of_written (fun _ hv => (Except.ok.inj hv).symm)
        (congrArg Except.ok hm.includeJunctionEdges)
    · rw [← hm.adapterVersion]
      cases o.get? "adapter_version" with
      | some v => rfl
      | none => exact versionOf_written s.adapterVersion

end Merge

section File

def override (defaults : List (Value × Value)) (o : Options) : List (Value × Value) :=
  o.foldl (fun entries e => Value.put entries (.text e.1) e.2) defaults

theorem get?_cons {e : String × Value} {name : String} :
    Options.get? (e :: o) name = if e.1 = name then some e.2 else o.get? name := by
  rw [Options.get?, List.find?_cons, Options.get?]
  by_cases h : e.1 = name
  · simp [h]
  · have he : (e.1 == name) = false := beq_eq_false_iff_ne.mpr h
    rw [he, if_neg h]

theorem get?_eq_none_of_not_mem {name : String} (h : name ∉ o.map Prod.fst) :
    o.get? name = none := by
  rw [Options.get?, Option.map_eq_none_iff, List.find?_eq_none]
  intro e he hn
  exact h (List.mem_map.mpr ⟨e, he, by simpa using hn⟩)

theorem ne_null_of_get? (ho : ∀ e ∈ o, e.2 ≠ .null) {name : String} {v : Value}
    (h : o.get? name = some v) : v ≠ .null := by
  obtain ⟨e, he, rfl⟩ := Option.map_eq_some_iff.mp h
  exact ho e (List.mem_of_find?_eq_some he)

theorem find?_override (ho : (o.map Prod.fst).Nodup) {name : String} :
    Value.find? (override defaults o) (.text name) =
      (o.get? name).or (Value.find? defaults (.text name)) := by
  induction o generalizing defaults with
  | nil => rfl
  | cons e o ih =>
    obtain ⟨he, ho⟩ := List.nodup_cons.mp ho
    have hfold : override defaults (e :: o) = override (Value.put defaults (.text e.1) e.2) o := rfl
    rw [hfold, ih ho, Value.find?_put, get?_cons]
    by_cases h : e.1 = name
    · subst h
      rw [if_pos rfl, if_pos rfl, get?_eq_none_of_not_mem he]
      rfl
    · rw [if_neg h, if_neg h]

def overrideFile (entries defaults : List (Value × Value)) (o : Options) : List (Value × Value) :=
  Value.put entries (.text "defaults") (.map (override defaults o))

theorem declaredIn_overrideFile (adapter : String) :
    declaredIn (overrideFile entries defaults o) adapter = declaredIn entries adapter := by
  have hfind : Value.find? (overrideFile entries defaults o) (.text "adapters") =
      Value.find? entries (.text "adapters") := by
    rw [overrideFile, Value.find?_put, if_neg (by decide)]
  simp only [declaredIn, Value.under, hfind]

theorem overriddenBy_ofFile (ho : (o.map Prod.fst).Nodup)
    (hdefaults : Value.find? entries (.text "defaults") = some (.map defaults))
    (hs : (ofFile (.map entries)).result = .ok s)
    (hu : (ofFile (.map (overrideFile entries defaults o))).result = .ok u) :
    OverriddenBy o s u := by
  have hdefaults' : Value.find? (overrideFile entries defaults o) (.text "defaults") =
      some (.map (override defaults o)) := by
    rw [overrideFile, Value.find?_put, if_pos rfl]
  obtain ⟨⟨before, hbefore, hget⟩, -⟩ := reads_of_ofFile hdefaults hs
  obtain ⟨⟨after, hafter, hget'⟩, -⟩ := reads_of_ofFile hdefaults' hu
  have hname (name : String) (hn : name ∈ optionNames) (hne : name ≠ "adapter_version") :
      after name = (o.get? name).or (before name) := by
    rw [hget' name hn hne, find?_override ho, hget name hn hne]
  have hdepth := hname "join_depth" (by decide) (by decide)
  have hstrategy := hname "join_strategy" (by decide) (by decide)
  have hadapter := hname "adapter" (by decide) (by decide)
  have hcycles := hname "detect_cycles" (by decide) (by decide)
  have hedges := hname "include_junction_edges" (by decide) (by decide)
  constructor
  · exact isOverridden_of_file hbefore.joinDepth (hdepth ▸ hafter.joinDepth)
  · exact isOverridden_of_file hbefore.joinStrategy (hstrategy ▸ hafter.joinStrategy)
  · exact isOverridden_of_file hbefore.adapter (hadapter ▸ hafter.adapter)
  · exact isOverridden_of_file (congrArg Except.ok hbefore.detectCycles)
      (congrArg Except.ok (hcycles ▸ hafter.detectCycles))
  · exact isOverridden_of_file (congrArg Except.ok hbefore.includeJunctionEdges)
      (congrArg Except.ok (hedges ▸ hafter.includeJunctionEdges))

theorem explicitVersion_override (ho : (o.map Prod.fst).Nodup) :
    explicitVersion (override defaults o) =
      ((o.get? "adapter_version").map versionOf).getD (explicitVersion defaults) := by
  simp only [explicitVersion, Value.under, find?_override ho]
  cases o.get? "adapter_version" <;> rfl

end File

/-- Merging overrides into the settings of a file and reading the file with the
overrides in it differ at most in the version: each looks an open version up for
the adapter that it knows. They agree exactly when the version is given or the
file declares the same version for both adapters. -/
theorem merge_eq_ofFile_iff (entries defaults : List (Value × Value)) (o : Options)
    (s m u : Settings)
    (hdefaults : Value.find? entries (.text "defaults") = some (.map defaults))
    (hnames : (o.map Prod.fst).Nodup) (hgiven : ∀ e ∈ o, e.2 ≠ .null)
    (hs : (ofFile (.map entries)).result = .ok s) (hm : merge s o = .ok m)
    (hu : (ofFile (.map (overrideFile entries defaults o))).result = .ok u) :
    m = { u with adapterVersion := m.adapterVersion } ∧
    m.adapterVersion =
      (explicitVersion (override defaults o)).or (declaredIn entries s.adapter) ∧
    u.adapterVersion =
      (explicitVersion (override defaults o)).or (declaredIn entries u.adapter) ∧
    (m = u ↔ explicitVersion (override defaults o) ≠ none ∨
      declaredIn entries s.adapter = declaredIn entries u.adapter) := by
  have hdefaults' : Value.find? (overrideFile entries defaults o) (.text "defaults") =
      some (.map (override defaults o)) := by
    rw [overrideFile, Value.find?_put, if_pos rfl]
  obtain ⟨⟨given, hreads, -⟩, hsversion⟩ := reads_of_ofFile hdefaults hs
  obtain ⟨-, huversion⟩ := reads_of_ofFile hdefaults' hu
  obtain ⟨hmerge, hmversion⟩ := overriddenBy_merge hreads hgiven hm
  rw [declaredIn_overrideFile] at huversion
  have hversion : m.adapterVersion =
      (explicitVersion (override defaults o)).or (declaredIn entries s.adapter) := by
    rw [hmversion, explicitVersion_override hnames, hsversion]
    cases hv : o.get? "adapter_version" with
    | none => rfl
    | some v =>
      rw [Option.map_some, Option.getD_some, versionOf_of_ne_null (ne_null_of_get? hgiven hv)]
      rfl
  have hsame := hmerge.unique (overriddenBy_ofFile hnames hdefaults hs hu)
  have hversions : m.adapterVersion = u.adapterVersion ↔
      explicitVersion (override defaults o) ≠ none ∨
        declaredIn entries s.adapter = declaredIn entries u.adapter := by
    rw [hversion, huversion]
    cases explicitVersion (override defaults o) <;> simp
  refine ⟨hsame, hversion, huversion, ?_⟩
  rw [← hversions]
  constructor
  · rintro rfl
    rfl
  · intro h
    rw [hsame, h]

/-- A file that declares versions for two adapters, the first of which is chosen. -/
def versionedFile : List (Value × Value) :=
  [(.text "defaults", .record [("adapter", .text "postgres")]),
    (.text "adapters", .record [("postgres", .record [("version", .text "14.0")]),
      ("mysql", .record [("version", .text "5.7")])])]

theorem ofFile_versionedFile : (ofFile (.map versionedFile)).result =
    .ok { adapter := "postgres", adapterVersion := some "14.0" } :=
  result_ofFile_of_known rfl (by decide) rfl rfl

theorem merge_eq_ofFile_iff_versionedFile :
    let defaults : List (Value × Value) := [(.text "adapter", .text "postgres")]
    let o : Options := [("adapter", .text "MySQL"), ("join_depth", .int 5)]
    let s : Settings := { adapter := "postgres", adapterVersion := some "14.0" }
    let m : Settings := { adapter := "mysql", adapterVersion := some "14.0", joinDepth := 5 }
    let u : Settings := { adapter := "mysql", adapterVersion := some "5.7", joinDepth := 5 }
    Value.find? versionedFile (.text "defaults") = some (.map defaults) ∧
    (o.map Prod.fst).Nodup ∧ (∀ e ∈ o, e.2 ≠ .null) ∧
    (ofFile (.map versionedFile)).result = .ok s ∧ merge s o = .ok m ∧
    (ofFile (.map (overrideFile versionedFile defaults o))).result = .ok u ∧
    m = { u with adapterVersion := m.adapterVersion } ∧
    m.adapterVersion =
      (explicitVersion (override defaults o)).or (declaredIn versionedFile s.adapter) ∧
    u.adapterVersion =
      (explicitVersion (override defaults o)).or (declaredIn versionedFile u.adapter) ∧
    (m = u ↔ explicitVersion (override defaults o) ≠ none ∨
      declaredIn versionedFile s.adapter = declaredIn versionedFile u.adapter) := by
  intro defaults o s m u
  have hdefaults : Value.find? versionedFile (.text "defaults") = some (.map defaults) := rfl
  have hnames : (o.map Prod.fst).Nodup := by decide
  have hgiven : ∀ e ∈ o, e.2 ≠ .null :=
    List.forall_mem_cons.mpr ⟨nofun, List.forall_mem_singleton.mpr nofun⟩
  have hm : merge s o = .ok m := by
    dsimp only [s, o, m]
    rfl
  have hu : (ofFile (.map (overrideFile versionedFile defaults o))).result = .ok u := by
    dsimp only [defaults, o, u]
    exact result_ofFile_of_known rfl (by decide) rfl rfl
  exact ⟨hdefaults, hnames, hgiven, ofFile_versionedFile, hm, hu,
    merge_eq_ofFile_iff versionedFile defaults o s m u hdefaults hnames hgiven
      ofFile_versionedFile hm hu⟩

/-- The adapter that overrides the one of the file is left with its version. -/
theorem merge_ne_ofFile_versionedFile :
    ¬ ∀ (entries defaults : List (Value × Value)) (o : Options) (s m u : Settings),
      Value.find? entries (.text "defaults") = some (.map defaults) →
      (o.map Prod.fst).Nodup → (∀ e ∈ o, e.2 ≠ .null) →
      (ofFile (.map entries)).result = .ok s → merge s o = .ok m →
      (ofFile (.map (overrideFile entries defaults o))).result = .ok u → m = u := by
  intro h
  have hsame := h versionedFile [(.text "adapter", .text "postgres")] [("adapter", .text "mysql")]
    { adapter := "postgres", adapterVersion := some "14.0" }
    { adapter := "mysql", adapterVersion := some "14.0" }
    { adapter := "mysql", adapterVersion := some "5.7" }
    rfl (by decide) (List.forall_mem_singleton.mpr nofun) ofFile_versionedFile rfl
    (result_ofFile_of_known rfl (by decide) rfl rfl)
  exact absurd (congrArg Settings.adapterVersion hsame) (by decide)

end SchemaJoins.Settings
