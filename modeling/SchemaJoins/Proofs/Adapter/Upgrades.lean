import SchemaJoins.Proofs.Adapter.Capabilities
import SchemaJoins.Proofs.Adapter.Order
import SchemaJoins.Proofs.Join.Passes

/-! # Upgrades of a server

Wherever the feature tables make a support depend on the version, they name the version
that it begins with. So a server that supports something still does after an upgrade, and
what is supported when the version is not known is supported at every version.
-/

namespace SchemaJoins.Adapter

variable {v w : Option String} {adapter requirement feature : String} {wanted : Version}
  {support : Support} {supported supported' : Bool} {table : List (String × Support)}
  {features features' : List (String × Bool)} {c d : Capabilities}

/-- Two versions of a server, of which the second is not earlier than the first. A server of
which no version is known may have been upgraded to any. -/
inductive IsUpgrade : Option String → Option String → Prop where
  | later {s t : String} {given next : Version} : Version.parse s = .ok given →
      Version.parse t = .ok next → given.padded ≤ next.padded → IsUpgrade (some s) (some t)
  | missing (w : Option String) : IsUpgrade none w
  | unparseable {s : String} {f : Fault} (w : Option String) :
      Version.parse s = .error f → IsUpgrade (some s) w

def Reaches (version : Option String) (wanted : Version) : Prop :=
  ∃ s given, version = some s ∧ Version.parse s = .ok given ∧ wanted.padded ≤ given.padded

theorem Reaches.of_isUpgrade (hvw : IsUpgrade v w) (h : Reaches v wanted) : Reaches w wanted := by
  obtain ⟨s, given, hs, hgiven, hle⟩ := h
  cases hvw with
  | later hfirst hnext hnot =>
    obtain rfl := Option.some.inj hs
    obtain rfl := Except.ok.inj (hfirst.symm.trans hgiven)
    exact ⟨_, _, rfl, hnext, hle.trans hnot⟩
  | missing w => cases hs
  | unparseable w hfault =>
    obtain rfl := Option.some.inj hs
    rw [hgiven] at hfault
    cases hfault

theorem versionSatisfies_eq_true_iff (h : StartsAt requirement wanted) :
    (versionSatisfies v requirement).result = .ok true ↔ Reaches v wanted := by
  obtain ⟨cs, hrequirement, hwanted⟩ := h
  constructor
  · intro htrue
    unfold versionSatisfies at htrue
    split at htrue
    · cases htrue
    · obtain ⟨hs, -⟩ := Option.filter_eq_some_iff.mp ‹_›
      rw [hrequirement] at htrue
      dsimp only at htrue
      split at htrue
      · cases htrue
      · rw [hwanted] at htrue
        exact ⟨_, _, hs, ‹_›, Version.holds_atLeast_iff.mp (Except.ok.inj htrue)⟩
  · rintro ⟨s, given, rfl, hgiven, hle⟩
    rw [versionSatisfies_of_parse hrequirement hgiven hwanted]
    exact congrArg Except.ok (Version.holds_atLeast_iff.mpr hle)

namespace Capabilities

theorem resolve_of_isUpgrade (hvw : IsUpgrade v w) (hsupport : support.IsGated)
    (hv : (resolve v support).result = .ok supported)
    (hw : (resolve w support).result = .ok supported') (h : supported = true) :
    supported' = true := by
  subst h
  cases support with
  | fixed _ => exact Except.ok.inj (hw.symm.trans hv)
  | when requirement =>
    obtain ⟨wanted, hwanted⟩ := hsupport
    have hreaches := (versionSatisfies_eq_true_iff hwanted).mp hv
    have htrue := (versionSatisfies_eq_true_iff hwanted).mpr (hreaches.of_isUpgrade hvw)
    exact Except.ok.inj (hw.symm.trans htrue)

/-- The same feature, supported on the right if it is on the left. -/
def KeepsFeature (a b : String × Bool) : Prop := b.1 = a.1 ∧ (a.2 = true → b.2 = true)

theorem resolveAll_of_isUpgrade (hvw : IsUpgrade v w)
    (htable : ∀ entry ∈ table, Support.IsGated entry.2)
    (hv : (resolveAll v table).result = .ok features)
    (hw : (resolveAll w table).result = .ok features') :
    List.Forall₂ KeepsFeature features features' := by
  induction table generalizing features features' with
  | nil =>
    cases hv
    cases hw
    exact .nil
  | cons entry table ih =>
    obtain ⟨feature, support⟩ := entry
    obtain ⟨hentry, htable⟩ := List.forall_mem_cons.mp htable
    obtain ⟨_, hsupported, hv⟩ := Logged.result_bind_eq_ok.mp hv
    obtain ⟨_, hrest, hv⟩ := Logged.result_bind_eq_ok.mp hv
    obtain ⟨_, hsupported', hw⟩ := Logged.result_bind_eq_ok.mp hw
    obtain ⟨_, hrest', hw⟩ := Logged.result_bind_eq_ok.mp hw
    cases hv
    cases hw
    exact .cons ⟨rfl, resolve_of_isUpgrade hvw hentry hsupported hsupported'⟩
      (ih htable hrest hrest')

theorem getD_find?_mono {supported : Bool} (h : List.Forall₂ KeepsFeature features features')
    (hfeature : ((features.find? (·.1 == feature)).map (·.2)).getD supported = true) :
    ((features'.find? (·.1 == feature)).map (·.2)).getD supported = true := by
  induction h with
  | nil => exact hfeature
  | cons hkeeps _ ih =>
    obtain ⟨hname, hkeeps⟩ := hkeeps
    rw [List.find?_cons] at hfeature ⊢
    rw [hname]
    split at hfeature
    · exact hkeeps hfeature
    · exact ih hfeature

theorem of_get_unknown (htable : featureTable (Text.lower adapter) = none)
    (h : (get adapter v).result = .ok c) : c.features = [] ∧ c.known = false := by
  simp only [get, htable] at h
  cases h
  exact ⟨rfl, rfl⟩

theorem of_get_known (htable : featureTable (Text.lower adapter) = some table)
    (h : (get adapter v).result = .ok c) :
    (resolveAll v table).result = .ok c.features ∧ c.known = true := by
  simp only [get, htable] at h
  obtain ⟨features, hfeatures, h⟩ := Logged.result_bind_eq_ok.mp h
  cases h
  exact ⟨hfeatures, rfl⟩

def KeepsSupport (c d : Capabilities) : Prop :=
  ∀ feature, c.supportsFeature feature = true → d.supportsFeature feature = true

theorem KeepsSupport.supports (h : c.KeepsSupport d) {kind : JoinKind}
    (hkind : c.supports kind = true) : d.supports kind = true := by
  cases kind with
  | inner => rfl
  | left => rfl
  | cross => rfl
  | right => exact h "right_join" hkind
  | full => exact h "full_outer_join" hkind

theorem keepsSupport_of_isUpgrade (hvw : IsUpgrade v w) (hv : (get adapter v).result = .ok c)
    (hw : (get adapter w).result = .ok d) : c.KeepsSupport d := by
  intro feature hfeature
  cases htable : featureTable (Text.lower adapter) with
  | none =>
    obtain ⟨hfeatures, hknown⟩ := of_get_unknown htable hw
    rw [supportsFeature, hfeatures, hknown]
    rfl
  | some table =>
    obtain ⟨hresolved, hknown⟩ := of_get_known htable hv
    obtain ⟨hresolved', hknown'⟩ := of_get_known htable hw
    have hall := resolveAll_of_isUpgrade hvw (isGated_of_featureTable htable) hresolved hresolved'
    rw [supportsFeature, hknown] at hfeature
    rw [supportsFeature, hknown']
    exact getD_find?_mono hall hfeature

/-- What an adapter supports at the first version it supports at the second one, so that
the second leaves every join as it is of which the first does not replace the kind. -/
structure LosesNothing (adapter : String) (v w : Option String) : Prop where
  keeps : ∃ c d, (get adapter v).result = .ok c ∧ (get adapter w).result = .ok d ∧
    c.KeepsSupport d ∧ ∀ kind, c.supports kind = true → d.supports kind = true
  adjust : ∀ mode mode' : LoadStrategy, ∃ o o',
    (Optimizer.create mode adapter v).result = .ok o ∧
    (Optimizer.create mode' adapter w).result = .ok o' ∧
    ∀ j : JoinConfig, (o.adjust j).kind = j.kind → o'.adjust j = j

theorem losesNothing_of_isUpgrade (adapter : String) (hvw : IsUpgrade v w) :
    LosesNothing adapter v w := by
  obtain ⟨c, hc⟩ := exists_get adapter v
  obtain ⟨d, hd⟩ := exists_get adapter w
  have hkeeps := keepsSupport_of_isUpgrade hvw hc hd
  refine ⟨⟨c, d, hc, hd, hkeeps, fun _ => hkeeps.supports⟩, fun mode mode' => ?_⟩
  refine ⟨⟨mode, c⟩, ⟨mode', d⟩, Logged.result_bind_eq_ok.mpr ⟨c, hc, rfl⟩,
    Logged.result_bind_eq_ok.mpr ⟨d, hd, rfl⟩, fun j hj => ?_⟩
  have hsupports := Optimizer.kind_adjust_eq_iff.mp hj
  rw [Optimizer.adjust_eq_ite, if_pos (hkeeps.supports hsupports)]

theorem losesNothing_of_isUpgrade_sqlite :
    IsUpgrade (some "3.39") (some " v3.100.2-log") ∧
      LosesNothing "SQLite" (some "3.39") (some " v3.100.2-log") := by
  have hgiven : Version.parse "3.39" = .ok [3, 39] := rfl
  have hnext : Version.parse " v3.100.2-log" = .ok [3, 100, 2] := rfl
  have hle : Version.padded [3, 39] ≤ Version.padded [3, 100, 2] := by
    rw [← Version.holds_atLeast_iff, Version.compare, Version.compare]
    rfl
  have hvw : IsUpgrade (some "3.39") (some " v3.100.2-log") :=
    .later hgiven hnext hle
  exact ⟨hvw, losesNothing_of_isUpgrade "SQLite" hvw⟩

end Capabilities

end SchemaJoins.Adapter
