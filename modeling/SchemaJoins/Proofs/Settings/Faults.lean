import SchemaJoins.Proofs.Data.Display
import SchemaJoins.Proofs.Data.Faults
import SchemaJoins.Proofs.Settings.Reading

/-! # What stops the reading of settings

Most files with wrong options are refused with a fault of the settings. A few shapes
stop the reading with another fault: keys that cannot be sorted or named, an adapter
whose entry is no mapping, and integers of too many digits where they are shown.
-/

namespace SchemaJoins

namespace Value

variable {v w : Value} {keys : List Value}

/-- The values can be sorted: there is one at most, or they are all of one family. -/
def HaveOrder (keys : List Value) : Prop :=
  keys.length ≤ 1 ∨ ∃ family, ∀ k ∈ keys, k.family? = some family

theorem isComparable_iff : isComparable v w = true ↔
    ∃ family, v.family? = some family ∧ w.family? = some family := by
  rw [isComparable, Bool.and_eq_true, decide_eq_true_eq, Option.isSome_iff_exists]
  constructor
  · rintro ⟨⟨family, hv⟩, hsame⟩
    exact ⟨family, hv, hsame ▸ hv⟩
  · rintro ⟨family, hv, hw⟩
    exact ⟨⟨family, hv⟩, hv.trans hw.symm⟩

theorem haveOrder_cons_cons : HaveOrder (v :: w :: keys) ↔
    isComparable v w = true ∧ HaveOrder (w :: keys) := by
  rw [isComparable_iff]
  simp only [HaveOrder, List.length_cons, List.forall_mem_cons]
  constructor
  · rintro (hlong | ⟨family, hv, hw, hkeys⟩)
    · omega
    · exact ⟨⟨family, hv, hw⟩, .inr ⟨family, hw, hkeys⟩⟩
  · rintro ⟨⟨family, hv, hw⟩, hshort | ⟨other, hother, hkeys⟩⟩
    · obtain rfl : keys = [] := List.length_eq_zero_iff.mp (by omega)
      exact .inr ⟨family, hv, hw, List.forall_mem_nil _⟩
    · cases hw.symm.trans hother
      exact .inr ⟨family, hv, hw, hkeys⟩

theorem requireOrdered_eq_ok : requireOrdered keys = .ok () ↔ HaveOrder keys := by
  induction keys with
  | nil => exact ⟨fun _ => .inl (Nat.zero_le 1), fun _ => rfl⟩
  | cons v keys ih =>
    cases keys with
    | nil => exact ⟨fun _ => .inl (Nat.le_refl 1), fun _ => rfl⟩
    | cons w keys =>
      rw [haveOrder_cons_cons, ← ih, requireOrdered]
      by_cases h : isComparable v w = true
      · rw [if_pos h]
        exact (and_iff_right h).symm
      · rw [if_neg h]
        exact ⟨nofun, fun hboth => absurd hboth.1 h⟩

end Value

namespace Settings

/-- A sort of faults that holds what a file is stopped with when it is not refused. -/
structure SparesSettings (P : Fault → Prop) : Prop where
  settings : ∀ why, ¬ P (.settings why)
  incomparable : ∀ left right, P (.incomparable left right)
  notText : ∀ position kind, P (.notText position kind)
  noAttribute : ∀ kind member, P (.noAttribute kind member)
  integerUnwritable : P .integerUnwritable

variable {P : Fault → Prop} {options : Options} {s : Settings} {v : Value}
  {entries defaults : List (Value × Value)}

section Options

def IsDepth (v : Value) : Prop := ∃ n : Int, 1 ≤ n ∧ v = .int n

def IsStrategy (v : Value) : Prop := ∃ strategy : LoadStrategy, v = .text strategy.name

/-- The reader takes the values of a sort, and refuses others in words that show them. -/
structure Takes {α : Type} (read : Value → Except Fault α) (Good : Value → Prop) : Prop where
  good : ∀ v, Good v → ∃ a, read v = .ok a
  other : ∀ v, ¬ Good v → ∃ why, read v = .error (.settings why) ∧
    (Fault.settings why).shown? = some v

theorem takes_depthOf : Takes depthOf IsDepth where
  good v h := by
    obtain ⟨n, hn, rfl⟩ := h
    exact ⟨n.toNat, if_pos hn⟩
  other v h := by
    refine ⟨.joinDepth v, ?_, rfl⟩
    cases v with
    | int n => exact if_neg fun hn => h ⟨n, hn, rfl⟩
    | _ => rfl

theorem takes_strategyOf : Takes strategyOf IsStrategy where
  good v h := by
    obtain ⟨strategy, rfl⟩ := h
    cases strategy
    · exact ⟨.eager, rfl⟩
    · exact ⟨.lazy, rfl⟩
    · exact ⟨.optimized, rfl⟩
  other v h := by
    refine ⟨.joinStrategy v (LoadStrategy.all.map (·.name)), ?_, rfl⟩
    cases v with
    | text name =>
      have hnone : LoadStrategy.ofName? name = none := by
        refine List.find?_eq_none.mpr fun strategy _ hname => h ⟨strategy, ?_⟩
        rw [beq_iff_eq.mp hname]
      rw [strategyOf, LoadStrategy.ofValue, Value.member, hnone]
      rfl
    | _ => rfl

/-- A wrong value is told in the words of the settings, unless it cannot be written. -/
theorem stopsWith_told (hP : SparesSettings P) {why : SettingsFault}
    (hshown : (Fault.settings why).shown? = some v) :
    P (Fault.told (.settings why)) ↔ ¬ v.isWritable = true := by
  unfold Fault.told
  rw [hshown, Option.all_some]
  by_cases h : v.isWritable = true
  · rw [if_pos h]
    exact ⟨fun hwhy => absurd hwhy (hP.settings why), fun hnot => absurd h hnot⟩
  · rw [if_neg h]
    exact ⟨fun _ => h, fun _ => hP.integerUnwritable⟩

section Reader

variable {α : Type} {read : Value → Except Fault α} {Good : Value → Prop}

theorem Takes.stopsWith_iff (h : Takes read Good) (hP : SparesSettings P) (v : Value) :
    StopsWith P ((read v).mapError Fault.told) ↔ ¬ Good v ∧ ¬ v.isWritable = true := by
  rw [stopsWith_mapError]
  by_cases hv : Good v
  · obtain ⟨a, ha⟩ := h.good v hv
    simp [ha, hv]
  · obtain ⟨why, hwhy, hshown⟩ := h.other v hv
    rw [hwhy, stopsWith_error, stopsWith_told hP hshown]
    exact (and_iff_right hv).symm

theorem Takes.exists_iff (h : Takes read Good) (v : Value) :
    (∃ a, (read v).mapError Fault.told = .ok a) ↔ Good v := by
  simp only [mapError_eq_ok]
  constructor
  · rintro ⟨a, ha⟩
    by_contra hv
    obtain ⟨why, hwhy, -⟩ := h.other v hv
    rw [hwhy] at ha
    cases ha
  · exact h.good v

end Reader

theorem not_stopsWith_adapterOf (hP : SparesSettings P) : ¬ StopsWith P (adapterOf v) := by
  unfold adapterOf
  split
  · exact not_stopsWith_ok _
  · rw [stopsWith_error]
    exact hP.settings _

theorem exists_adapterOf : (∃ adapter, adapterOf v = .ok adapter) ↔ v.isTrue = true := by
  unfold adapterOf
  split <;> simp_all

end Options

section File

def givenDepth (defaults : List (Value × Value)) : Value :=
  (Value.find? defaults (.text "join_depth")).getD (.int 3)

def givenStrategy (defaults : List (Value × Value)) : Value :=
  (Value.find? defaults (.text "join_strategy")).getD (.text "optimized")

def strangeKeys (defaults : List (Value × Value)) : List Value :=
  (defaults.map (·.1)).filter (!isOption ·)

def HasTable (entries : List (Value × Value)) : Prop :=
  ((Value.map entries).under "adapters").isTrue = true →
    ∃ table, (Value.map entries).under "adapters" = .map table

def selectedEntry (entries defaults : List (Value × Value)) : Value :=
  ((Value.map entries).under "adapters").under (selectedAdapter defaults)

/-- No option gives a version, and what stands under the selected adapter is no
mapping that could give one. -/
def AsksInVain (entries defaults : List (Value × Value)) : Prop :=
  (Value.map defaults).under "adapter_version" = .null ∧
    (selectedEntry entries defaults).isTrue = true ∧
    ∀ own, selectedEntry entries defaults ≠ .map own

/-- The file stops the reading with a fault that is none of the settings. -/
inductive Escapes (entries defaults : List (Value × Value)) : Prop where
  /-- The keys that are no options cannot be sorted. -/
  | unordered : ¬ Value.HaveOrder (strangeKeys defaults) → Escapes entries defaults
  /-- A key that is no text cannot be named in the warning. -/
  | unnamed : (Value.find? entries (.text "defaults")).isSome = true →
      (∃ key ∈ strangeKeys defaults, ∀ s, key ≠ .text s) → Escapes entries defaults
  | adapter : HasTable entries → ¬ (givenAdapter defaults).isWritable = true →
      Escapes entries defaults
  /-- The entry of the selected adapter is asked for a version and is no mapping. -/
  | entry : HasTable entries → AsksInVain entries defaults → Escapes entries defaults
  | depth : HasTable entries → ¬ IsDepth (givenDepth defaults) →
      ¬ (givenDepth defaults).isWritable = true → Escapes entries defaults
  | strategy : HasTable entries → IsDepth (givenDepth defaults) →
      ¬ IsStrategy (givenStrategy defaults) → ¬ (givenStrategy defaults).isWritable = true →
      Escapes entries defaults
  | version : HasTable entries → IsDepth (givenDepth defaults) →
      IsStrategy (givenStrategy defaults) → (givenAdapter defaults).isTrue = true →
      ¬ (givenVersion entries defaults).isWritable = true → Escapes entries defaults

theorem mem_optionNames_of_knownOptions {o : String × Value} (h : o ∈ knownOptions defaults) :
    o.1 ∈ optionNames := by
  obtain ⟨⟨k, w⟩, -, hk⟩ := List.mem_filterMap.mp h
  cases k with
  | text name =>
    dsimp only at hk
    split at hk
    · cases hk
      simpa using ‹optionNames.contains name = true›
    · cases hk
  | _ => cases hk

theorem mem_optionNames_of_optionsOfFile (h : optionsOfFile entries defaults = .ok options)
    {o : String × Value} (ho : o ∈ options) : o.1 ∈ optionNames := by
  rw [optionsOfFile_eq] at h
  obtain ⟨table, _, h⟩ := bind_eq_ok.mp h
  obtain ⟨_, _, h⟩ := bind_eq_ok.mp h
  split at h
  · obtain ⟨w, _, h⟩ := bind_eq_ok.mp h
    split at h
    · cases h
      exact mem_optionNames_of_knownOptions ho
    · cases h
      obtain ho | ho := List.mem_append.mp ho
      · exact mem_optionNames_of_knownOptions (List.mem_of_mem_filter ho)
      · obtain rfl := List.mem_singleton.mp ho
        exact (by decide : "adapter_version" ∈ optionNames)
  · cases h
    exact mem_optionNames_of_knownOptions ho

theorem stopsWith_ofOptions (hP : SparesSettings P)
    (h : optionsOfFile entries defaults = .ok options) : StopsWith P (ofOptions options) ↔
      (¬ IsDepth (givenDepth defaults) ∧ ¬ (givenDepth defaults).isWritable = true) ∨
      IsDepth (givenDepth defaults) ∧
        ((¬ IsStrategy (givenStrategy defaults) ∧ ¬ (givenStrategy defaults).isWritable = true) ∨
        IsStrategy (givenStrategy defaults) ∧ (givenAdapter defaults).isTrue = true ∧
          (¬ (givenAdapter defaults).isWritable = true ∨ (givenAdapter defaults).isWritable = true ∧
            ¬ (givenVersion entries defaults).isWritable = true)) := by
  obtain ⟨hget, hversion⟩ := get?_optionsOfFile h
  have hknown : List.find? (fun o => !optionNames.contains o.1) options = none := by
    refine List.find?_eq_none.mpr fun o ho => ?_
    simpa using mem_optionNames_of_optionsOfFile h ho
  have hdepth := hget "join_depth" (by decide) (by decide)
  have hstrategy := hget "join_strategy" (by decide) (by decide)
  have hadapter := hget "adapter" (by decide) (by decide)
  unfold ofOptions
  rw [hknown]
  dsimp only
  rw [hdepth, hstrategy, hadapter, hversion, ← givenDepth, ← givenStrategy, ← givenAdapter]
  rw [stopsWith_bind_of (takes_depthOf.exists_iff _) fun _ _ =>
    stopsWith_bind_of (takes_strategyOf.exists_iff _) fun _ _ =>
    stopsWith_bind_of exists_adapterOf fun _ _ =>
    stopsWith_bind_of Value.exists_requireWritable fun _ _ =>
    stopsWith_bind_of Value.exists_requireWritable fun _ _ =>
      iff_false_intro (not_stopsWith_pure _)]
  rw [takes_depthOf.stopsWith_iff hP, takes_strategyOf.stopsWith_iff hP,
    Value.stopsWith_requireWritable hP.integerUnwritable,
    Value.stopsWith_requireWritable hP.integerUnwritable]
  have := not_stopsWith_adapterOf hP (v := givenAdapter defaults)
  tauto

theorem settingsMap_eq_ok {why : SettingsFault} :
    settingsMap v why = .ok entries ↔ v = .map entries := by
  cases v <;> simp [settingsMap]

theorem not_stopsWith_settingsMap (hP : SparesSettings P) {why : SettingsFault} :
    ¬ StopsWith P (settingsMap v why) := by
  cases v with
  | map table => exact not_stopsWith_ok table
  | _ => exact fun h => hP.settings why (stopsWith_error.mp h)

theorem not_stopsWith_adaptersOf (hP : SparesSettings P) : ¬ StopsWith P (adaptersOf entries) := by
  unfold adaptersOf
  split
  · exact not_stopsWith_settingsMap hP
  · exact not_stopsWith_pure _

theorem exists_adaptersOf : (∃ table, adaptersOf entries = .ok table) ↔ HasTable entries := by
  unfold adaptersOf HasTable
  split
  · simp only [settingsMap_eq_ok]
    exact (true_imp_iff.symm.trans (imp_congr_left (iff_of_true trivial ‹_›)))
  · exact ⟨fun _ h => absurd h ‹_›, fun _ => ⟨[], rfl⟩⟩

theorem stopsWith_withDeclaredVersion (hP : ∀ kind member, P (.noAttribute kind member))
    {table : List (Value × Value)} (htable : adaptersOf entries = .ok table) :
    StopsWith P (withDeclaredVersion defaults table) ↔
      (selectedEntry entries defaults).isTrue = true ∧
        ∀ own, selectedEntry entries defaults ≠ .map own := by
  rw [withDeclaredVersion, stopsWith_bind]
  refine (or_iff_left ?_).trans ?_
  · rintro ⟨w, -, h⟩
    cases w <;> exact not_stopsWith_pure _ h
  rw [selectedEntry, ← under_adaptersOf htable, declaredVersion, Value.under]
  cases Value.find? table (.text (selectedAdapter defaults)) with
  | none =>
    refine iff_of_false (not_stopsWith_pure _) fun h => ?_
    cases h.1
  | some entry =>
    dsimp only [Option.getD_some]
    by_cases htrue : entry.isTrue = true
    · rw [if_pos htrue, and_iff_right htrue]
      cases entry with
      | map own => exact iff_of_false (not_stopsWith_ok _) fun h => h own rfl
      | _ =>
        refine iff_of_true ⟨_, rfl, hP _ _⟩ fun own he => ?_
        cases he
    · rw [if_neg htrue]
      exact ⟨fun h => absurd h (not_stopsWith_pure _), fun h => absurd h.1 htrue⟩

def filledOptions (defaults table : List (Value × Value)) : Except Fault Options :=
  match (Value.map defaults).under "adapter_version" with
  | .null => withDeclaredVersion defaults table
  | _ => pure (knownOptions defaults)

theorem stopsWith_filledOptions (hP : ∀ kind member, P (.noAttribute kind member))
    {table : List (Value × Value)} (htable : adaptersOf entries = .ok table) :
    StopsWith P (filledOptions defaults table) ↔ AsksInVain entries defaults := by
  rw [AsksInVain, ← stopsWith_withDeclaredVersion hP htable, filledOptions]
  split
  · rename_i hopen
    exact (and_iff_right hopen).symm
  · rename_i hgiven
    exact ⟨fun h => absurd h (not_stopsWith_pure _), fun h => absurd h.1 hgiven⟩

theorem stopsWith_optionsOfFile (hP : SparesSettings P) :
    StopsWith P (optionsOfFile entries defaults) ↔ HasTable entries ∧
      (¬ (givenAdapter defaults).isWritable = true ∨
        (givenAdapter defaults).isWritable = true ∧ AsksInVain entries defaults) := by
  rw [optionsOfFile_eq, ← Value.stopsWith_requireWritable hP.integerUnwritable,
    ← or_iff_right (b := HasTable entries ∧ _) (not_stopsWith_adaptersOf hP)]
  exact stopsWith_bind_of exists_adaptersOf fun table htable =>
    stopsWith_bind_of Value.exists_requireWritable fun _ _ =>
      stopsWith_filledOptions hP.noAttribute htable

theorem exists_optionsOfFile : (∃ options, optionsOfFile entries defaults = .ok options) ↔
    HasTable entries ∧ (givenAdapter defaults).isWritable = true ∧
      ¬ AsksInVain entries defaults := by
  rw [optionsOfFile_eq]
  exact exists_bind_of exists_adaptersOf fun table htable =>
    exists_bind_of Value.exists_requireWritable fun _ _ =>
      exists_ok_iff.trans (not_congr (stopsWith_filledOptions (fun _ _ => trivial) htable))

theorem stopsWith_requireOrdered (hP : ∀ left right, P (.incomparable left right))
    {keys : List Value} :
    StopsWith P (Value.requireOrdered keys) ↔ ¬ Value.HaveOrder keys := by
  rw [← Value.requireOrdered_eq_ok]
  induction keys with
  | nil => simp [Value.requireOrdered]
  | cons v keys ih =>
    cases keys with
    | nil => simp [Value.requireOrdered]
    | cons w keys =>
      rw [Value.requireOrdered]
      split
      · exact ih
      · simp [hP]

theorem unknownKeys_eq_ok {unknown : List Value} : unknownKeys defaults = .ok unknown ↔
    Value.HaveOrder (strangeKeys defaults) ∧
      (strangeKeys defaults).mergeSort Value.le = unknown := by
  rw [← Value.requireOrdered_eq_ok, unknownKeys, bind_eq_ok]
  constructor
  · rintro ⟨_, hordered, ⟨⟩⟩
    exact ⟨hordered, rfl⟩
  · rintro ⟨hordered, rfl⟩
    exact ⟨(), hordered, rfl⟩

theorem stopsWith_nameStrangeKeys (hordered : ∀ left right, P (.incomparable left right))
    (htext : ∀ position kind, P (.notText position kind)) :
    StopsWith P (nameStrangeKeys entries defaults) ↔ ¬ Value.HaveOrder (strangeKeys defaults) ∨
      (Value.find? entries (.text "defaults")).isSome = true ∧
        ∃ key ∈ strangeKeys defaults, ∀ s, key ≠ .text s := by
  have hkeys : StopsWith P (unknownKeys defaults) ↔ ¬ Value.HaveOrder (strangeKeys defaults) := by
    rw [← stopsWith_requireOrdered hordered, unknownKeys, stopsWith_bind]
    exact or_iff_left fun ⟨_, _, h⟩ => not_stopsWith_pure _ h
  have hexists : (∃ unknown, unknownKeys defaults = .ok unknown) ↔
      Value.HaveOrder (strangeKeys defaults) := by
    simp [unknownKeys_eq_ok]
  have hinclusive {R Q : Prop} : ¬ R ∨ Q ↔ ¬ R ∨ R ∧ Q := by tauto
  rw [hinclusive, ← hkeys]
  refine stopsWith_bind_of hexists fun unknown hunknown => ?_
  obtain ⟨-, rfl⟩ := unknownKeys_eq_ok.mp hunknown
  have hmem {key : Value} : key ∈ (strangeKeys defaults).mergeSort Value.le ↔
      key ∈ strangeKeys defaults := (List.mergeSort_perm _ _).mem_iff
  split
  · rename_i hnamed
    rw [Bool.and_eq_true] at hnamed
    rw [and_iff_right hnamed.2, stopsWith_bind, Value.stopsWith_joinTexts htext]
    simp only [hmem, not_stopsWith_pure, and_false, exists_false, or_false]
  · rename_i hnamed
    refine ⟨fun h => absurd h (not_stopsWith_pure _), ?_⟩
    rintro ⟨hsome, key, hkey, -⟩
    refine absurd ?_ hnamed
    rw [Bool.and_eq_true, Bool.not_eq_true', List.isEmpty_eq_false_iff_exists_mem]
    exact ⟨⟨key, hmem.mpr hkey⟩, hsome⟩

theorem exists_nameStrangeKeys : (∃ u, nameStrangeKeys entries defaults = .ok u) ↔
    ¬ (¬ Value.HaveOrder (strangeKeys defaults) ∨
      (Value.find? entries (.text "defaults")).isSome = true ∧
        ∃ key ∈ strangeKeys defaults, ∀ s, key ≠ .text s) :=
  exists_ok_iff.trans
    (not_congr (stopsWith_nameStrangeKeys (fun _ _ => trivial) fun _ _ => trivial))

/-- The options of a file stand under `defaults`, or they are all of it. -/
def HasDefaults (entries defaults : List (Value × Value)) : Prop :=
  Value.find? entries (.text "defaults") = some (.map defaults) ∨
    Value.find? entries (.text "defaults") = none ∧ defaults = entries

theorem settingsMap_defaults {why : SettingsFault} :
    settingsMap ((Value.find? entries (.text "defaults")).getD (.map entries)) why = .ok defaults ↔
      HasDefaults entries defaults := by
  rw [settingsMap_eq_ok, HasDefaults]
  cases Value.find? entries (.text "defaults") with
  | none => simp [eq_comm]
  | some below => simp

theorem stopsWith_ofDefaults (hP : SparesSettings P) : StopsWith P (do
    nameStrangeKeys entries defaults
    ofOptions (← optionsOfFile entries defaults)) ↔ Escapes entries defaults := by
  rw [stopsWith_bind_of exists_nameStrangeKeys fun _ _ =>
    stopsWith_bind_of exists_optionsOfFile fun _ hoptions => stopsWith_ofOptions hP hoptions]
  rw [stopsWith_nameStrangeKeys hP.incomparable hP.notText, stopsWith_optionsOfFile hP]
  constructor
  · rintro ((hkeys | ⟨hsome, hkey⟩) | ⟨-, ⟨htable, hadapter | ⟨-, hentry⟩⟩ | ⟨⟨htable, -⟩, hvalue⟩⟩)
    · exact .unordered hkeys
    · exact .unnamed hsome hkey
    · exact .adapter htable hadapter
    · exact .entry htable hentry
    · obtain ⟨hdepth, hshown⟩ | ⟨hdepth, ⟨hstrategy, hshown⟩ | ⟨hstrategy, htrue, hshown⟩⟩ := hvalue
      · exact .depth htable hdepth hshown
      · exact .strategy htable hdepth hstrategy hshown
      · obtain hadapter | ⟨-, hversion⟩ := hshown
        · exact .adapter htable hadapter
        · exact .version htable hdepth hstrategy htrue hversion
  · intro hescapes
    -- a step before the one that escapes may stop the reading as well
    refine or_iff_not_imp_left.mpr fun hkeys => ⟨hkeys, or_iff_not_imp_left.mpr fun hoptions => ?_⟩
    have hpast (htable : HasTable entries) : HasTable entries ∧
        (givenAdapter defaults).isWritable = true ∧ ¬ AsksInVain entries defaults := by tauto
    cases hescapes with
    | unordered h => exact absurd (.inl h) hkeys
    | unnamed hsome h => exact absurd (.inr ⟨hsome, h⟩) hkeys
    | adapter htable h => exact absurd ⟨htable, .inl h⟩ hoptions
    | entry htable h => exact absurd h (hpast htable).2.2
    | depth htable h hshown => exact ⟨hpast htable, .inl ⟨h, hshown⟩⟩
    | strategy htable hdepth h hshown => exact ⟨hpast htable, .inr ⟨hdepth, .inl ⟨h, hshown⟩⟩⟩
    | version htable hdepth hstrategy htrue h =>
      have hpassed := hpast htable
      exact ⟨hpassed, .inr ⟨hdepth, .inr ⟨hstrategy, htrue, .inr ⟨hpassed.2.1, h⟩⟩⟩⟩

def FileEscapes (v : Value) : Prop :=
  ∃ entries defaults, v = .map entries ∧ HasDefaults entries defaults ∧ Escapes entries defaults

theorem stopsWith_ofFile (hP : SparesSettings P) :
    StopsWith P (ofFile v).result ↔ FileEscapes v := by
  rw [result_ofFile, stopsWith_bind, or_iff_right (not_stopsWith_settingsMap hP)]
  refine exists_congr fun entries => ?_
  simp only [settingsMap_eq_ok]
  constructor
  · rintro ⟨rfl, h⟩
    obtain h | ⟨defaults, hdefaults, h⟩ := stopsWith_bind.mp h
    · exact absurd h (not_stopsWith_settingsMap hP)
    · exact ⟨defaults, rfl, settingsMap_defaults.mp hdefaults, (stopsWith_ofDefaults hP).mp h⟩
  · rintro ⟨defaults, rfl, hdefaults, h⟩
    exact ⟨rfl, stopsWith_bind.mpr (.inr
      ⟨defaults, settingsMap_defaults.mpr hdefaults, (stopsWith_ofDefaults hP).mpr h⟩)⟩

end File

section Proper

structure IsProper (s : Settings) : Prop where
  joinDepth : 1 ≤ s.joinDepth
  adapter : s.adapter ≠ ""
  lowerCase : Text.lower s.adapter = s.adapter

theorem isProper_of_ofOptions (h : ofOptions options = .ok s) : s.IsProper := by
  have hreads := reads_of_ofOptions h
  have hlower := eq_lower_of_adapterOf hreads.adapter
  have htrue := exists_adapterOf.mp ⟨_, hreads.adapter⟩
  refine ⟨?_, ?_, ?_⟩
  · have hdepth := hreads.joinDepth
    obtain ⟨n, hn, hgiven⟩ := (takes_depthOf.exists_iff _).mp ⟨_, mapError_eq_ok.mpr hdepth⟩
    rw [hgiven, depthOf, if_pos hn] at hdepth
    have := Except.ok.inj hdepth
    omega
  · rw [hlower]
    exact Text.lower_ne_empty (Value.display_ne_empty htrue)
  · rw [hlower, Text.lower_lower]

theorem isProper_of_ofFile (h : (ofFile v).result = .ok s) : s.IsProper := by
  rw [result_ofFile] at h
  obtain ⟨entries, _, h⟩ := bind_eq_ok.mp h
  obtain ⟨defaults, _, h⟩ := bind_eq_ok.mp h
  obtain ⟨_, _, h⟩ := bind_eq_ok.mp h
  obtain ⟨options, _, h⟩ := bind_eq_ok.mp h
  exact isProper_of_ofOptions h

/-- A file is read to proper settings or refused with a fault of the settings,
unless it is of one of the shapes that escape. -/
theorem proper_or_refused_iff (v : Value) :
    ((∃ s, (ofFile v).result = .ok s ∧ s.IsProper) ∨
      ∃ why, (ofFile v).result = .error (.settings why)) ↔ ¬ FileEscapes v := by
  have hother : SparesSettings fun f => ∀ why, f ≠ .settings why :=
    ⟨fun why h => h why rfl, nofun, nofun, nofun, nofun⟩
  rw [← stopsWith_ofFile hother]
  cases hresult : (ofFile v).result with
  | ok s => simpa using isProper_of_ofFile hresult
  | error f => simp

end Proper

end Settings

end SchemaJoins
