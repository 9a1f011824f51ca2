import Mathlib.Tactic.ByContra
import SchemaJoins.Relationship.Classify

/-! # Singular forms

A name loses the ending of a plural, and keeps everything else. So names have the same
singular exactly when they are, in any case, forms of the same word.
-/

namespace SchemaJoins.Text

/-- The endings of a word that takes `es` in the plural. -/
def sibilants : List (List Char) := [['s', 's'], ['x'], ['c', 'h'], ['s', 'h']]

def EndsInSibilant (cs : List Char) : Prop := ∃ ending ∈ sibilants, ending <:+ cs

/-- The form is a plural of the word, or the word itself. -/
inductive IsFormOf : List Char → List Char → Prop where
  | ies {stem : List Char} : stem ≠ [] → IsFormOf (stem ++ ['i', 'e', 's']) (stem ++ ['y'])
  | es {word : List Char} : EndsInSibilant word → IsFormOf (word ++ ['e', 's']) word
  | s {word : List Char} : ¬ ['s'] <:+ word → (∀ stem, word = stem ++ ['i', 'e'] → stem = []) →
      (∀ stem, word = stem ++ ['e'] → ¬ EndsInSibilant stem) → IsFormOf (word ++ ['s']) word
  | self {word : List Char} : (['s'] <:+ word → ['s', 's'] <:+ word) → IsFormOf word word

/-- Both names are forms of one word, in any case. -/
def ShareSingular (a b : String) : Prop :=
  ∃ word, IsFormOf (lower a).toList word ∧ IsFormOf (lower b).toList word

section Endings

variable {s name : String} {cs stem ending word : List Char}

theorem endsWithAny_iff {endings : List String} :
    endsWithAny s endings = true ↔ ∃ e ∈ endings, e.toList <:+ s.toList := by
  simp [endsWithAny]

theorem toList_dropLast {n : Nat} (h : s.toList = stem ++ ending) (hn : ending.length = n) :
    (dropLast s n).toList = stem := by
  have hlength : s.length = stem.length + n := by
    rw [← String.length_toList, h, List.length_append, hn]
  rw [dropLast, String.toList_ofList, hlength, Nat.add_sub_cancel, h, List.take_left]

theorem not_suffix {e e' : List Char} (h : e' <:+ cs) (hlength : e.length ≤ e'.length)
    (hno : ¬ e <:+ e') : ¬ e <:+ cs :=
  fun he => hno (List.suffix_of_suffix_length_le he h hlength)

theorem not_suffix_of_endsInSibilant {e : List Char} (h : EndsInSibilant cs)
    (he : ∀ ending ∈ sibilants, e.length ≤ ending.length ∧ ¬ e <:+ ending) : ¬ e <:+ cs := by
  obtain ⟨ending, hmem, hending⟩ := h
  exact not_suffix hending (he ending hmem).1 (he ending hmem).2

/-- The name is a plural in `ies`, with something in front of the ending. -/
def EndsInIes (cs : List Char) : Prop := ['i', 'e', 's'] <:+ cs ∧ 3 < cs.length

def EndsInEs (cs : List Char) : Prop := ∃ ending ∈ sibilants, ending ++ ['e', 's'] <:+ cs

def EndsInS (cs : List Char) : Prop := ['s'] <:+ cs ∧ ¬ ['s', 's'] <:+ cs

instance (cs : List Char) : Decidable (EndsInIes cs) := inferInstanceAs (Decidable (_ ∧ _))

instance (cs : List Char) : Decidable (EndsInEs cs) :=
  inferInstanceAs (Decidable (∃ _ ∈ sibilants, _))

instance (cs : List Char) : Decidable (EndsInS cs) := inferInstanceAs (Decidable (_ ∧ _))

theorem EndsInIes.endsInS (h : EndsInIes cs) : EndsInS cs :=
  ⟨.trans ⟨['i', 'e'], rfl⟩ h.1, not_suffix h.1 (by decide) (by decide)⟩

theorem EndsInEs.endsInS (h : EndsInEs cs) : EndsInS cs := by
  obtain ⟨ending, -, h⟩ := h
  have hes : ['e', 's'] <:+ cs := (List.suffix_append _ _).trans h
  exact ⟨.trans ⟨['e'], rfl⟩ hes, not_suffix hes (by decide) (by decide)⟩

end Endings

section Singular

variable {s name : String} {stem word : List Char}

theorem isIes_iff : (endsWithAny s ["ies"] && decide (3 < s.length)) = true ↔
    EndsInIes s.toList := by
  rw [Bool.and_eq_true, endsWithAny_iff, decide_eq_true_iff, EndsInIes, String.length_toList]
  simp

theorem isEs_iff : endsWithAny s ["sses", "xes", "ches", "shes"] = true ↔ EndsInEs s.toList := by
  rw [endsWithAny_iff]
  simp [EndsInEs, sibilants]

theorem isS_iff : (endsWithAny s ["s"] && !endsWithAny s ["ss"]) = true ↔ EndsInS s.toList := by
  rw [Bool.and_eq_true, Bool.not_eq_true', ← Bool.not_eq_true, endsWithAny_iff, endsWithAny_iff]
  simp [EndsInS]

theorem toList_singularize (name : String) : (singularize name).toList =
    if EndsInIes (lower name).toList then (dropLast (lower name) 3).toList ++ ['y']
    else if EndsInEs (lower name).toList then (dropLast (lower name) 2).toList
    else if EndsInS (lower name).toList then (dropLast (lower name) 1).toList
    else (lower name).toList := by
  unfold singularize
  generalize lower name = s
  simp only [isIes_iff, isEs_iff, isS_iff, apply_ite String.toList, String.toList_append]
  rfl

theorem singularize_of_ies (h : (lower name).toList = stem ++ ['i', 'e', 's']) (hne : stem ≠ []) :
    (singularize name).toList = stem ++ ['y'] := by
  have hies : EndsInIes (lower name).toList := by
    refine ⟨h ▸ List.suffix_append _ _, ?_⟩
    have hpos := List.length_pos_iff.mpr hne
    rw [h, List.length_append, List.length_cons, List.length_cons, List.length_cons]
    omega
  rw [toList_singularize, if_pos hies, toList_dropLast (n := 3) h rfl]

theorem singularize_of_es (h : (lower name).toList = word ++ ['e', 's'])
    (hword : EndsInSibilant word) : (singularize name).toList = word := by
  have hes : EndsInEs (lower name).toList := by
    obtain ⟨ending, hmem, hending⟩ := hword
    exact ⟨ending, hmem, h ▸ List.suffix_append_self_iff.mpr hending⟩
  have hies : ¬ EndsInIes (lower name).toList := by
    rintro ⟨hies, -⟩
    rw [h] at hies
    have hi : ['i'] ++ ['e', 's'] <:+ word ++ ['e', 's'] := hies
    exact not_suffix_of_endsInSibilant hword (by decide) (List.suffix_append_self_iff.mp hi)
  rw [toList_singularize, if_neg hies, if_pos hes, toList_dropLast (n := 2) h rfl]

theorem singularize_of_s (h : (lower name).toList = word ++ ['s']) (hs : ¬ ['s'] <:+ word)
    (hie : ∀ stem, word = stem ++ ['i', 'e'] → stem = [])
    (he : ∀ stem, word = stem ++ ['e'] → ¬ EndsInSibilant stem) :
    (singularize name).toList = word := by
  have hies : ¬ EndsInIes (lower name).toList := by
    rintro ⟨hies, hlength⟩
    rw [h] at hies hlength
    have hword : ['i', 'e'] ++ ['s'] <:+ word ++ ['s'] := hies
    obtain ⟨stem, rfl⟩ := List.suffix_append_self_iff.mp hword
    rw [hie stem rfl] at hlength
    exact absurd hlength (by decide)
  have hes : ¬ EndsInEs (lower name).toList := by
    rintro ⟨ending, hmem, hes⟩
    rw [h] at hes
    have hword : (ending ++ ['e']) ++ ['s'] <:+ word ++ ['s'] := by rwa [List.append_assoc]
    obtain ⟨stem, rfl⟩ := List.suffix_append_self_iff.mp hword
    exact he (stem ++ ending) (by simp) ⟨ending, hmem, List.suffix_append _ _⟩
  have hss : EndsInS (lower name).toList := by
    rw [h]
    refine ⟨List.suffix_append _ _, fun hss => hs ?_⟩
    have hword : ['s'] ++ ['s'] <:+ word ++ ['s'] := hss
    exact List.suffix_append_self_iff.mp hword
  rw [toList_singularize, if_neg hies, if_neg hes, if_pos hss, toList_dropLast (n := 1) h rfl]

theorem singularize_of_self (h : ¬ EndsInS (lower name).toList) :
    (singularize name).toList = (lower name).toList := by
  rw [toList_singularize, if_neg (mt EndsInIes.endsInS h), if_neg (mt EndsInEs.endsInS h),
    if_neg h]

theorem singularize_of_isFormOf (h : IsFormOf (lower name).toList word) :
    (singularize name).toList = word := by
  generalize hcs : (lower name).toList = cs at h
  cases h with
  | ies hne => exact singularize_of_ies hcs hne
  | es hword => exact singularize_of_es hcs hword
  | s hs hie he => exact singularize_of_s hcs hs hie he
  | self hss =>
    rw [singularize_of_self, hcs]
    rw [hcs]
    exact fun ⟨hs, hno⟩ => hno (hss hs)

/-- Every name is a form of some word: which one is seen by its ending. -/
theorem exists_isFormOf (cs : List Char) : ∃ word, IsFormOf cs word := by
  by_cases hies : EndsInIes cs
  · obtain ⟨⟨stem, rfl⟩, hlength⟩ := hies
    refine ⟨stem ++ ['y'], .ies ?_⟩
    rintro rfl
    exact absurd hlength (by decide)
  by_cases hes : EndsInEs cs
  · obtain ⟨ending, hmem, stem, rfl⟩ := hes
    rw [← List.append_assoc]
    exact ⟨_, .es ⟨ending, hmem, List.suffix_append _ _⟩⟩
  by_cases hs : EndsInS cs
  · obtain ⟨⟨word, rfl⟩, hss⟩ := hs
    refine ⟨word, .s (fun h => hss ?_) ?_ ?_⟩
    · show ['s'] ++ ['s'] <:+ word ++ ['s']
      exact List.suffix_append_self_iff.mpr h
    · rintro stem rfl
      by_contra hne
      have hpos := List.length_pos_iff.mpr hne
      refine hies ⟨⟨stem, by simp⟩, ?_⟩
      simp only [List.length_append, List.length_cons, List.length_nil]
      omega
    · rintro stem rfl ⟨ending, hmem, before, rfl⟩
      exact hes ⟨ending, hmem, before, by simp⟩
  · exact ⟨cs, .self fun h => by_contra fun hss => hs ⟨h, hss⟩⟩

theorem isFormOf_iff : IsFormOf (lower name).toList word ↔ (singularize name).toList = word := by
  constructor
  · exact singularize_of_isFormOf
  · rintro rfl
    obtain ⟨word, hword⟩ := exists_isFormOf (lower name).toList
    rwa [singularize_of_isFormOf hword]

theorem singularize_eq_iff {a b : String} : singularize a = singularize b ↔ ShareSingular a b := by
  constructor
  · intro h
    exact ⟨(singularize b).toList, isFormOf_iff.mpr (by rw [h]), isFormOf_iff.mpr rfl⟩
  · rintro ⟨word, ha, hb⟩
    rw [← String.toList_inj, isFormOf_iff.mp ha, isFormOf_iff.mp hb]

example : singularize "Boxes" = singularize "box" := by decide

end Singular

end SchemaJoins.Text
