import Mathlib.Data.List.Basic
import SchemaJoins.Proofs.Data.Entries
import SchemaJoins.Proofs.Data.Steps
import SchemaJoins.Proofs.Text.Lowercase
import SchemaJoins.Settings.Basic

/-! # Reading settings

Every setting is read from its own option. The version is read from the file when
the option is open: it is the one that the file declares for the adapter.
-/

namespace SchemaJoins

namespace Value

def under (v : Value) (key : String) : Value :=
  match v with
  | .map entries => (find? entries (.text key)).getD .null
  | _ => .null

end Value

namespace Settings

variable {options o : Options} {s m : Settings} {entries defaults : List (Value × Value)}

/-- The settings are what the options given say. -/
structure Reads (given : String → Option Value) (s : Settings) : Prop where
  joinDepth : depthOf ((given "join_depth").getD (.int 3)) = .ok s.joinDepth
  joinStrategy : strategyOf ((given "join_strategy").getD (.text "optimized")) = .ok s.joinStrategy
  adapter : adapterOf ((given "adapter").getD (.text "postgres")) = .ok s.adapter
  adapterVersion : versionOf ((given "adapter_version").getD .null) = s.adapterVersion
  detectCycles : (given "detect_cycles").getD (.bool true) = s.detectCycles
  includeJunctionEdges :
    (given "include_junction_edges").getD (.bool false) = s.includeJunctionEdges

theorem reads_of_ofOptions (h : ofOptions options = .ok s) : Reads options.get? s := by
  unfold ofOptions at h
  split at h
  · cases h
  · obtain ⟨depth, hdepth, h⟩ := bind_eq_ok.mp h
    obtain ⟨strategy, hstrategy, h⟩ := bind_eq_ok.mp h
    obtain ⟨adapter, hadapter, h⟩ := bind_eq_ok.mp h
    obtain ⟨_, _, h⟩ := bind_eq_ok.mp h
    obtain ⟨_, _, h⟩ := bind_eq_ok.mp h
    cases h
    exact ⟨mapError_eq_ok.mp hdepth, mapError_eq_ok.mp hstrategy, hadapter, rfl, rfl, rfl⟩

section Options

variable {name key : String} {v : Value}

theorem get?_append : Options.get? (options ++ o) name = (options.get? name).or (o.get? name) := by
  rw [Options.get?, List.find?_append, Option.map_or]
  rfl

theorem get?_filter_ne (h : name ≠ key) :
    Options.get? (options.filter (·.1 != key)) name = options.get? name := by
  rw [Options.get?, List.find?_filter, Options.get?]
  congr 2
  funext e
  by_cases he : e.1 = name
  · simp [he, h]
  · simp [he]

theorem get?_filter_self : Options.get? (options.filter (·.1 != key)) key = none := by
  rw [Options.get?, List.find?_filter, Option.map_eq_none_iff, List.find?_eq_none]
  intro e _
  simp

theorem get?_knownOptions (h : name ∈ optionNames) :
    (knownOptions entries).get? name = Value.find? entries (.text name) := by
  induction entries with
  | nil => rfl
  | cons e entries ih =>
    obtain ⟨k, w⟩ := e
    rw [Value.find?_cons, ← ih]
    cases k with
    | text t =>
      by_cases ht : t = name
      · subst ht
        simp [knownOptions, Options.get?, h, Value.sameKey_text.mpr rfl]
      · have hs : Value.sameKey (.text t) (.text name) = false := by simp [Value.sameKey, ht]
        rw [hs]
        by_cases hm : t ∈ optionNames
        · simp [knownOptions, Options.get?, hm, ht]
        · simp [knownOptions, Options.get?, hm]
    | _ => rfl

end Options

section File

def declaredIn (entries : List (Value × Value)) (adapter : String) : Option String :=
  versionOf ((((Value.map entries).under "adapters").under adapter).under "version")

def explicitVersion (defaults : List (Value × Value)) : Option String :=
  versionOf ((Value.map defaults).under "adapter_version")

theorem versionOf_of_ne_null {v : Value} (h : v ≠ .null) : versionOf v = some v.display := by
  cases v with
  | null => exact absurd rfl h
  | _ => rfl

theorem under_of_not_isTrue {v : Value} (h : ¬ v.isTrue = true) (key : String) :
    v.under key = .null := by
  cases v with
  | map es =>
    have hes : es = [] := by simpa [Value.isTrue] using h
    subst hes
    rfl
  | _ => rfl

theorem eq_under_of_declaredVersion {table : List (Value × Value)} {adapter : String} {w : Value}
    (h : declaredVersion table adapter = .ok w) :
    w = ((Value.map table).under adapter).under "version" := by
  unfold declaredVersion at h
  simp only [Value.under]
  cases hfind : Value.find? table (.text adapter) with
  | none =>
    rw [hfind] at h
    cases h
    rfl
  | some entry =>
    rw [hfind] at h
    dsimp only at h
    split at h
    · cases entry with
      | map es =>
        cases h
        rfl
      | _ => cases h
    · rename_i hentry
      cases h
      exact (under_of_not_isTrue hentry "version").symm

def givenAdapter (defaults : List (Value × Value)) : Value :=
  (Value.find? defaults (.text "adapter")).getD (.text "postgres")

def selectedAdapter (defaults : List (Value × Value)) : String :=
  Text.lower (givenAdapter defaults).display

def adaptersOf (entries : List (Value × Value)) : Except Fault (List (Value × Value)) :=
  if ((Value.map entries).under "adapters").isTrue then
    settingsMap ((Value.map entries).under "adapters") .adaptersNotMapping
  else pure []

def withDeclaredVersion (defaults table : List (Value × Value)) : Except Fault Options := do
  match ← declaredVersion table (selectedAdapter defaults) with
  | .null => return knownOptions defaults
  | w => return (knownOptions defaults).filter (·.1 != "adapter_version") ++
      [("adapter_version", w)]

theorem optionsOfFile_eq : optionsOfFile entries defaults = (do
    let table ← adaptersOf entries
    (givenAdapter defaults).requireWritable
    match (Value.map defaults).under "adapter_version" with
    | .null => withDeclaredVersion defaults table
    | _ => pure (knownOptions defaults)) := by
  have hadapter : (knownOptions defaults).get? "adapter" =
      Value.find? defaults (.text "adapter") := get?_knownOptions (by decide)
  have hversion : ((knownOptions defaults).get? "adapter_version").getD .null =
      (Value.map defaults).under "adapter_version" := by
    rw [get?_knownOptions (by decide)]
    rfl
  unfold optionsOfFile adaptersOf
  dsimp only
  rw [hadapter, hversion]
  by_cases ha : ((Value.map entries).under "adapters").isTrue = true
  · rw [if_pos ha]
    exact if_pos ha
  · rw [if_neg ha]
    exact if_neg ha

theorem under_adaptersOf {table : List (Value × Value)} (h : adaptersOf entries = .ok table)
    (key : String) :
    (Value.map table).under key = ((Value.map entries).under "adapters").under key := by
  unfold adaptersOf at h
  split at h
  · cases ha : (Value.map entries).under "adapters" with
    | map es =>
      rw [ha] at h
      cases h
      rfl
    | _ =>
      rw [ha] at h
      cases h
  · rename_i hv
    cases h
    rw [under_of_not_isTrue hv]
    rfl

/-- The version among the options, or the one declared for the adapter if it is open. -/
def givenVersion (entries defaults : List (Value × Value)) : Value :=
  match (Value.map defaults).under "adapter_version" with
  | .null =>
      (((Value.map entries).under "adapters").under (selectedAdapter defaults)).under "version"
  | w => w

theorem versionOf_givenVersion : versionOf (givenVersion entries defaults) =
    (explicitVersion defaults).or (declaredIn entries (selectedAdapter defaults)) := by
  unfold givenVersion explicitVersion
  split
  · rename_i hopen
    rw [hopen]
    rfl
  · rename_i hgiven
    rw [versionOf_of_ne_null hgiven, Option.some_or]

theorem get?_optionsOfFile (h : optionsOfFile entries defaults = .ok options) :
    (∀ name ∈ optionNames, name ≠ "adapter_version" →
      options.get? name = Value.find? defaults (.text name)) ∧
    (options.get? "adapter_version").getD .null = givenVersion entries defaults := by
  rw [optionsOfFile_eq] at h
  obtain ⟨table, htable, h⟩ := bind_eq_ok.mp h
  obtain ⟨_, _, h⟩ := bind_eq_ok.mp h
  have hknown : ((knownOptions defaults).get? "adapter_version").getD .null =
      (Value.map defaults).under "adapter_version" := by
    rw [get?_knownOptions (by decide)]
    rfl
  unfold givenVersion
  split at h
  · rename_i hopen
    obtain ⟨w, hw, h⟩ := bind_eq_ok.mp h
    have hdeclared : w = (((Value.map entries).under "adapters").under
        (selectedAdapter defaults)).under "version" := by
      rw [eq_under_of_declaredVersion hw, under_adaptersOf htable]
    rw [← hdeclared]
    split at h
    · cases h
      exact ⟨fun name hname _ => get?_knownOptions hname, hknown.trans hopen⟩
    · cases h
      refine ⟨fun name hname hne => ?_, ?_⟩
      · have hlast : Options.get? [("adapter_version", w)] name = none := by
          simp [Options.get?, Ne.symm hne]
        rw [get?_append, get?_filter_ne hne, get?_knownOptions hname, hlast, Option.or_none]
      · rw [get?_append, get?_filter_self]
        rfl
  · rename_i hgiven
    cases h
    refine ⟨fun name hname _ => get?_knownOptions hname, ?_⟩
    rw [hknown]

theorem eq_lower_of_adapterOf {v : Value} {adapter : String} (h : adapterOf v = .ok adapter) :
    adapter = Text.lower v.display := by
  unfold adapterOf at h
  split at h
  · exact (Except.ok.inj h).symm
  · cases h

theorem unknownKeys_of_known (h : ∀ e ∈ entries, isOption e.1 = true) :
    unknownKeys entries = .ok [] := by
  have hkeys : (entries.map (·.1)).filter (!isOption ·) = [] := by
    refine List.filter_eq_nil_iff.mpr fun k hk hunknown => ?_
    obtain ⟨e, he, rfl⟩ := List.mem_map.mp hk
    rw [h e he] at hunknown
    cases hunknown
  unfold unknownKeys
  rw [hkeys]
  exact congrArg Except.ok List.mergeSort_nil

/-- The keys that are no options are sorted, and named in a warning if they stand
under `defaults`. -/
def nameStrangeKeys (entries defaults : List (Value × Value)) : Except Fault Unit := do
  let unknown ← unknownKeys defaults
  if !unknown.isEmpty && (Value.find? entries (.text "defaults")).isSome then
    let _ ← Value.joinTexts ", " unknown
  else pure ()

theorem result_ofFile (v : Value) : (ofFile v).result = (do
    let entries ← settingsMap v (.notMapping v.shortKind)
    let defaults ← settingsMap ((Value.find? entries (.text "defaults")).getD v) .defaultsNotMapping
    nameStrangeKeys entries defaults
    ofOptions (← optionsOfFile entries defaults)) := by
  have hlift {α : Type} (x : Except Fault α) : (liftM x : Logged α).result = x := rfl
  have hbind {α β : Type} (x : Except Fault α) (next : α → Except Fault β) :
      x.bind next = x >>= next := rfl
  unfold ofFile nameStrangeKeys
  simp only [Logged.result_bind, hlift, hbind, bind_assoc]
  refine congrArg (settingsMap v _ >>= ·) (funext fun entries => ?_)
  refine congrArg (settingsMap _ _ >>= ·) (funext fun defaults => ?_)
  refine congrArg (unknownKeys defaults >>= ·) (funext fun unknown => ?_)
  split
  · simp only [Logged.result_bind, hlift, hbind, Logged.result_warn, bind_assoc, pure_bind]
    rfl
  · simp only [Logged.result_bind, hlift, hbind, pure_bind]

theorem exists_options_of_ofFile
    (hdefaults : Value.find? entries (.text "defaults") = some (.map defaults))
    (h : (ofFile (.map entries)).result = .ok s) :
    ∃ options, optionsOfFile entries defaults = .ok options ∧ ofOptions options = .ok s := by
  rw [result_ofFile] at h
  obtain ⟨_, ⟨⟩, h⟩ := bind_eq_ok.mp h
  rw [hdefaults] at h
  obtain ⟨_, ⟨⟩, h⟩ := bind_eq_ok.mp h
  obtain ⟨_, _, h⟩ := bind_eq_ok.mp h
  exact bind_eq_ok.mp h

theorem result_ofFile_of_known
    (hdefaults : Value.find? entries (.text "defaults") = some (.map defaults))
    (hknown : ∀ e ∈ defaults, isOption e.1 = true)
    (hoptions : optionsOfFile entries defaults = .ok options) (hs : ofOptions options = .ok s) :
    (ofFile (.map entries)).result = .ok s := by
  have hnamed : nameStrangeKeys entries defaults = .ok () := by
    rw [nameStrangeKeys, unknownKeys_of_known hknown]
    rfl
  rw [result_ofFile]
  refine bind_eq_ok.mpr ⟨entries, rfl, ?_⟩
  rw [hdefaults]
  refine bind_eq_ok.mpr ⟨defaults, rfl, ?_⟩
  exact bind_eq_ok.mpr ⟨(), hnamed, bind_eq_ok.mpr ⟨options, hoptions, hs⟩⟩

/-- What a file says: the options under `defaults`, and the version among them or
the one that is declared for the adapter. -/
theorem reads_of_ofFile
    (hdefaults : Value.find? entries (.text "defaults") = some (.map defaults))
    (h : (ofFile (.map entries)).result = .ok s) :
    (∃ given, Reads given s ∧ ∀ name ∈ optionNames, name ≠ "adapter_version" →
      given name = Value.find? defaults (.text name)) ∧
    s.adapterVersion = (explicitVersion defaults).or (declaredIn entries s.adapter) := by
  obtain ⟨options, hoptions, h⟩ := exists_options_of_ofFile hdefaults h
  have hreads := reads_of_ofOptions h
  obtain ⟨hget, hversion⟩ := get?_optionsOfFile hoptions
  have hadapter : selectedAdapter defaults = s.adapter := by
    have := hreads.adapter
    rw [hget "adapter" (by decide) (by decide)] at this
    exact (eq_lower_of_adapterOf this).symm
  refine ⟨⟨options.get?, hreads, hget⟩, ?_⟩
  rw [← hadapter, ← versionOf_givenVersion, ← hversion, hreads.adapterVersion]

end File

end Settings

end SchemaJoins
