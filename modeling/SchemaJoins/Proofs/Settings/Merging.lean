import SchemaJoins.Proofs.Settings.Faults
import SchemaJoins.Proofs.Settings.Overrides

/-! # Settings written back and merged

Settings that are written as options read back as they were. Merging reads every setting
again, be it overridden or not, so that merging one set of overrides after another is merging
both at once, where the later override of an option wins.
-/

namespace SchemaJoins.Settings

variable {α : Type} {options o x y z : Options} {c s m u : Settings}

section Reading

theorem find?_unknown_eq_none : options.find? (fun e => !optionNames.contains e.1) = none ↔
    ∀ e ∈ options, e.1 ∈ optionNames := by
  simp [List.find?_eq_none]

/-- The settings that options are read to: no option is unknown, and what is turned into a
text can be written. -/
theorem ofOptions_eq_ok : ofOptions options = .ok s ↔
    (∀ e ∈ options, e.1 ∈ optionNames) ∧ Reads options.get? s ∧
      ((options.get? "adapter").getD (.text "postgres")).isWritable = true ∧
      ((options.get? "adapter_version").getD .null).isWritable = true := by
  constructor
  · intro h
    have hreads := reads_of_ofOptions h
    unfold ofOptions at h
    split at h
    · cases h
    · rename_i hknown
      obtain ⟨_, _, h⟩ := bind_eq_ok.mp h
      obtain ⟨_, _, h⟩ := bind_eq_ok.mp h
      obtain ⟨_, _, h⟩ := bind_eq_ok.mp h
      obtain ⟨_, hadapter, h⟩ := bind_eq_ok.mp h
      obtain ⟨_, hversion, h⟩ := bind_eq_ok.mp h
      exact ⟨find?_unknown_eq_none.mp hknown, hreads,
        Value.exists_requireWritable.mp ⟨_, hadapter⟩,
        Value.exists_requireWritable.mp ⟨_, hversion⟩⟩
  · rintro ⟨hknown, hreads, hadapter, hversion⟩
    obtain ⟨_, hadapter⟩ := Value.exists_requireWritable.mpr hadapter
    obtain ⟨_, hversion⟩ := Value.exists_requireWritable.mpr hversion
    unfold ofOptions
    rw [find?_unknown_eq_none.mpr hknown]
    refine bind_eq_ok.mpr ⟨_, mapError_eq_ok.mpr hreads.joinDepth, ?_⟩
    refine bind_eq_ok.mpr ⟨_, mapError_eq_ok.mpr hreads.joinStrategy, ?_⟩
    refine bind_eq_ok.mpr ⟨_, hreads.adapter, ?_⟩
    refine bind_eq_ok.mpr ⟨_, hadapter, bind_eq_ok.mpr ⟨_, hversion, ?_⟩⟩
    rw [hreads.adapterVersion, hreads.detectCycles, hreads.includeJunctionEdges]
    rfl

end Reading

section Written

theorem isWritable_version (version : Option String) :
    ((version.map Value.text).getD .null).isWritable = true := by
  cases version <;> rfl

theorem depthOf_int {n : Nat} (h : 1 ≤ n) : depthOf (.int n) = .ok n := by
  rw [depthOf, if_pos (by omega)]
  rfl

theorem strategyOf_name (l : LoadStrategy) : strategyOf (.text l.name) = .ok l := by
  cases l <;> rfl

theorem IsProper.adapterOf_text (h : s.IsProper) : adapterOf (.text s.adapter) = .ok s.adapter := by
  have htrue : (Value.text s.adapter).isTrue = true := by
    simpa [Value.isTrue] using h.adapter
  rw [adapterOf, if_pos htrue]
  exact congrArg Except.ok h.lowerCase

theorem IsProper.reads_toOptions (h : s.IsProper) : Reads s.toOptions.get? s where
  joinDepth := depthOf_int h.joinDepth
  joinStrategy := strategyOf_name s.joinStrategy
  adapter := h.adapterOf_text
  adapterVersion := versionOf_written s.adapterVersion
  detectCycles := rfl
  includeJunctionEdges := rfl

theorem mem_optionNames_toOptions : ∀ e ∈ s.toOptions, e.1 ∈ optionNames := by
  simp [toOptions, optionNames]

theorem IsProper.ofOptions_toOptions (h : s.IsProper) : ofOptions s.toOptions = .ok s :=
  ofOptions_eq_ok.mpr
    ⟨mem_optionNames_toOptions, h.reads_toOptions, rfl, isWritable_version s.adapterVersion⟩

def writtenEntries (s : Settings) : List (Value × Value) :=
  s.toOptions.map fun (k, v) => (.text k, v)

theorem unknownKeys_written : unknownKeys s.writtenEntries = .ok [] := by
  refine unknownKeys_of_known fun e he => ?_
  obtain ⟨o, ho, rfl⟩ := List.mem_map.mp he
  exact List.contains_iff_mem.mpr (mem_optionNames_toOptions o ho)

/-- Written settings declare no versions of adapters, so that an open version stays open. -/
theorem optionsOfFile_written :
    optionsOfFile s.writtenEntries s.writtenEntries = .ok s.toOptions := by
  rw [optionsOfFile_eq]
  obtain ⟨_, version, _, _, _, _⟩ := s
  cases version <;> rfl

theorem IsProper.ofFile_toValue (h : s.IsProper) : ofFile s.toValue = ⟨.ok s, []⟩ := by
  have hread : ofFile s.toValue = (do
      let unknown ← (unknownKeys s.writtenEntries : Logged _)
      if !unknown.isEmpty && false then
        Logged.warn ("Ignoring unknown configuration keys: " ++ (← Value.joinTexts ", " unknown))
      ofOptions (← optionsOfFile s.writtenEntries s.writtenEntries)) := rfl
  rw [hread, unknownKeys_written, optionsOfFile_written]
  show Logged.lift (ofOptions s.toOptions) = _
  rw [h.ofOptions_toOptions]
  rfl

end Written

section Merging

/-- The override that is given for an option: the first that is not `null`. -/
def Options.given? (o : Options) (name : String) : Option Value :=
  (o.find? fun e => e.1 == name && !(e.2 matches .null)).map (·.2)

theorem given?_eq (o : Options) (name : String) : o.given? name = (givenOverrides o).get? name := by
  rw [Options.get?, givenOverrides, List.find?_filter, Options.given?]
  congr 2
  funext e
  obtain ⟨key, v⟩ := e
  cases v <;> simp only [Bool.decide_and, Bool.decide_eq_true, Bool.and_comm]

def mergedOptions (s : Settings) (o : Options) : Options :=
  givenOverrides o ++ s.toOptions.filter fun e => !((givenOverrides o).any (·.1 == e.1))

theorem get?_mergedOptions (s : Settings) (o : Options) :
    (mergedOptions s o).get? = fun name => (o.given? name).or (s.toOptions.get? name) :=
  funext fun name => by rw [given?_eq, mergedOptions, get?_append_filter]

theorem mem_optionNames_mergedOptions : (∀ e ∈ mergedOptions s o, e.1 ∈ optionNames) ↔
    ∀ e ∈ givenOverrides o, e.1 ∈ optionNames := by
  rw [mergedOptions, List.forall_mem_append]
  refine and_iff_left fun e he => ?_
  exact mem_optionNames_toOptions e (List.mem_of_mem_filter he)

/-- Merging reads the settings anew, also if nothing is overridden. -/
theorem IsProper.merge_eq (h : s.IsProper) : merge s o = ofOptions (mergedOptions s o) := by
  unfold merge
  split
  · rename_i hnone
    have hwritten : mergedOptions s o = s.toOptions := by
      simp [mergedOptions, hnone]
    rw [hwritten, h.ofOptions_toOptions]
  · rfl

theorem IsProper.merge_eq_ok (h : s.IsProper) : merge s o = .ok m ↔
    (∀ e ∈ givenOverrides o, e.1 ∈ optionNames) ∧
      Reads (fun name => (o.given? name).or (s.toOptions.get? name)) m ∧
      (((o.given? "adapter").or (s.toOptions.get? "adapter")).getD
        (.text "postgres")).isWritable = true ∧
      (((o.given? "adapter_version").or (s.toOptions.get? "adapter_version")).getD
        .null).isWritable = true := by
  rw [h.merge_eq, ofOptions_eq_ok, mem_optionNames_mergedOptions, get?_mergedOptions]

theorem IsProper.of_merge (h : s.IsProper) (hm : merge s o = .ok m) : m.IsProper := by
  rw [h.merge_eq] at hm
  exact isProper_of_ofOptions hm

end Merging

section Overlay

/-- The overrides are those of the second set, and of the first set where the second gives
none. -/
def Overlays (x y z : Options) : Prop :=
  ∀ name, z.given? name = (y.given? name).or (x.given? name)

theorem forall_mem_givenOverrides : (∀ e ∈ givenOverrides o, e.1 ∈ optionNames) ↔
    ∀ name, (o.given? name).isSome = true → name ∈ optionNames := by
  simp only [given?_eq, Options.get?, Option.isSome_map, List.find?_isSome, beq_iff_eq]
  constructor
  · rintro h _ ⟨e, he, rfl⟩
    exact h e he
  · exact fun h e he => h e.1 ⟨e, he, rfl⟩

theorem Overlays.mem_optionNames (hz : Overlays x y z)
    (hx : ∀ e ∈ givenOverrides x, e.1 ∈ optionNames)
    (hy : ∀ e ∈ givenOverrides y, e.1 ∈ optionNames) :
    ∀ e ∈ givenOverrides z, e.1 ∈ optionNames := by
  rw [forall_mem_givenOverrides] at hx hy ⊢
  intro name hname
  rw [hz name, Option.isSome_or, Bool.or_eq_true] at hname
  exact hname.elim (hy name) (hx name)

/-- An option that is given by the second of two sets is read of it both times, and any
other is read of what was read before. -/
theorem read_of_overlay (read : Value → Except Fault α) {given given' : Option Value}
    {written written' default : Value} {a b : α} (hwritten : ∀ c, read written' = .ok c → c = a)
    (h : read ((given.or (some written)).getD default) = .ok a)
    (h' : read ((given'.or (some written')).getD default) = .ok b) :
    read (((given'.or given).or (some written)).getD default) = .ok b := by
  cases given' with
  | none =>
    obtain rfl := hwritten b h'
    exact h
  | some v => exact h'

theorem isWritable_of_overlay {given given' : Option Value} {written written' default : Value}
    (h : ((given.or (some written)).getD default).isWritable = true)
    (h' : ((given'.or (some written')).getD default).isWritable = true) :
    (((given'.or given).or (some written)).getD default).isWritable = true := by
  cases given' with
  | none => exact h
  | some v => exact h'

theorem Overlays.reads (hz : Overlays x y z)
    (hm : Reads (fun name => (x.given? name).or (s.toOptions.get? name)) m)
    (hu : Reads (fun name => (y.given? name).or (m.toOptions.get? name)) u) :
    Reads (fun name => (z.given? name).or (s.toOptions.get? name)) u := by
  have hversion : Except.ok (ε := Fault) (versionOf ((((y.given? "adapter_version").or
      (x.given? "adapter_version")).or (s.toOptions.get? "adapter_version")).getD .null)) =
        .ok u.adapterVersion :=
    read_of_overlay (fun v => .ok (versionOf v))
      (fun _ hc => (Except.ok.inj hc).symm.trans (versionOf_written m.adapterVersion))
      (congrArg Except.ok hm.adapterVersion) (congrArg Except.ok hu.adapterVersion)
  simp only [funext hz]
  constructor
  · exact read_of_overlay depthOf (fun _ => depthOf_written) hm.joinDepth hu.joinDepth
  · exact read_of_overlay strategyOf (fun _ => strategyOf_written) hm.joinStrategy hu.joinStrategy
  · exact read_of_overlay adapterOf (fun _ => adapterOf_written hm.adapter) hm.adapter hu.adapter
  · exact Except.ok.inj hversion
  · exact Except.ok.inj (read_of_overlay .ok (fun _ hc => (Except.ok.inj hc).symm)
      (congrArg Except.ok hm.detectCycles) (congrArg Except.ok hu.detectCycles))
  · exact Except.ok.inj (read_of_overlay .ok (fun _ hc => (Except.ok.inj hc).symm)
      (congrArg Except.ok hm.includeJunctionEdges) (congrArg Except.ok hu.includeJunctionEdges))

theorem IsProper.merge_of_overlays (h : s.IsProper) (hz : Overlays x y z)
    (hm : merge s x = .ok m) (hu : merge m y = .ok u) : merge s z = .ok u := by
  obtain ⟨hx, hreads, hadapter, hversion⟩ := h.merge_eq_ok.mp hm
  obtain ⟨hy, hreads', hadapter', hversion'⟩ := (h.of_merge hm).merge_eq_ok.mp hu
  refine h.merge_eq_ok.mpr ⟨hz.mem_optionNames hx hy, hz.reads hreads hreads', ?_, ?_⟩
  · rw [hz]
    exact isWritable_of_overlay hadapter hadapter'
  · rw [hz]
    exact isWritable_of_overlay hversion hversion'

end Overlay

section Overridden

/-- Every setting is what its override says, or what it was before if none is given. -/
structure IsMerged (o : Options) (s m : Settings) : Prop extends
    OverriddenBy (givenOverrides o) s m where
  adapterVersion : IsOverridden (fun v => .ok (versionOf v)) (o.given? "adapter_version")
    s.adapterVersion m.adapterVersion

theorem ne_null_of_mem_givenOverrides : ∀ e ∈ givenOverrides o, e.2 ≠ .null := by
  rintro ⟨name, v⟩ he rfl
  have hgiven := (List.mem_filter.mp he).2
  cases hgiven

theorem merge_givenOverrides : merge s (givenOverrides o) = merge s o := by
  unfold merge
  rw [givenOverrides_eq ne_null_of_mem_givenOverrides]

theorem IsProper.isMerged (h : s.IsProper) (hm : merge s o = .ok m) : IsMerged o s m := by
  rw [← merge_givenOverrides] at hm
  obtain ⟨hoverridden, hversion⟩ :=
    overriddenBy_merge h.reads_toOptions ne_null_of_mem_givenOverrides hm
  rw [← given?_eq] at hversion
  refine ⟨hoverridden, ?_⟩
  unfold IsOverridden
  cases hgiven : o.given? "adapter_version" with
  | none =>
    rw [hgiven] at hversion
    exact hversion
  | some v =>
    rw [hgiven] at hversion
    exact congrArg Except.ok hversion.symm

end Overridden

/-- Settings that some options give read back from the mapping that they are written as.
Merging one set of overrides and then another gives what merging both at once gives, where
the second set has the last word on what it gives. A setting that no override is given for
keeps its value, and any other has the value that is read of its override. -/
theorem reread_and_merged (s : Settings) (hs : ∃ options, ofOptions options = .ok s) :
    ofFile s.toValue = ⟨.ok s, []⟩ ∧
    (∀ x y z m u, Overlays x y z → merge s x = .ok m → merge m y = .ok u →
      merge s z = .ok u) ∧
    ∀ o m, merge s o = .ok m → IsMerged o s m := by
  obtain ⟨options, hoptions⟩ := hs
  have hproper := isProper_of_ofOptions hoptions
  refine ⟨hproper.ofFile_toValue, ?_, ?_⟩
  · exact fun x y z m u hz => hproper.merge_of_overlays hz
  · exact fun o m => hproper.isMerged

theorem reread_and_merged_mysql :
    let s : Settings := { adapter := "mysql", adapterVersion := some "8.0" }
    let x : Options := [("adapter", .null), ("detect_cycles", .bool false), ("join_depth", .int 5)]
    let y : Options := [("join_depth", .int 2), ("adapter_version", .text "")]
    let z : Options := [("join_depth", .int 2), ("adapter_version", .text ""),
      ("detect_cycles", .bool false)]
    let m : Settings := { s with detectCycles := .bool false, joinDepth := 5 }
    let u : Settings := { m with joinDepth := 2, adapterVersion := some "" }
    (∃ options, ofOptions options = .ok s) ∧ Overlays x y z ∧ merge s x = .ok m ∧
    merge m y = .ok u ∧ ofFile s.toValue = ⟨.ok s, []⟩ ∧ merge s z = .ok u ∧
    IsMerged x s m := by
  intro s x y z m u
  have hs : ∃ options, ofOptions options = .ok s :=
    ⟨[("adapter", .text "MySQL"), ("adapter_version", .text "8.0")], rfl⟩
  have hz : Overlays x y z := by
    intro name
    by_cases hdepth : name = "join_depth"
    · subst hdepth
      rfl
    by_cases hversion : name = "adapter_version"
    · subst hversion
      rfl
    · simp [x, y, z, Options.given?, List.find?_cons, Ne.symm hdepth, Ne.symm hversion]
  have hm : merge s x = .ok m := by
    dsimp only [s, x, m]
    rfl
  have hu : merge m y = .ok u := by
    dsimp only [s, y, m, u]
    rfl
  obtain ⟨hread, hmerge, hmerged⟩ := reread_and_merged s hs
  exact ⟨hs, hz, hm, hu, hread, hmerge x y z m u hz hm hu, hmerged x m hm⟩

end SchemaJoins.Settings
