import Mathlib.Data.List.Forall2
import SchemaJoins.Proofs.Data.Entries
import SchemaJoins.Proofs.Data.First
import SchemaJoins.Proofs.Data.Steps
import SchemaJoins.Proofs.Number.Doubles

/-! # Keys that are equal

Keys of a map are compared by what they amount to: numbers of all kinds by their value, and
tuples item by item. This is an equivalence, so that a map built from pairs has, for each
class of equal keys, the first of them in its place with what was written last.
-/

namespace SchemaJoins.Value

variable {v w key : Value} {entries pairs : List (Value × Value)}

section Forms

inductive KeyForm where
  | null
  | text (s : String)
  | infinite (negative : Bool)
  | number (x : ℚ)
  | tuple (items : List KeyForm)
  | other

def Numeric.keyForm : Numeric → KeyForm
  | whole n => .number n
  | real .nan => .other
  | real (.infinite negative) => .infinite negative
  | real (.finite negative mantissa exponent) =>
      .number (Binary64.value negative mantissa exponent)

mutual

def keyForm : Value → KeyForm
  | null => .null
  | bool b => .number (if b then 1 else 0)
  | int n => .number n
  | real x => (Numeric.real x).keyForm
  | text s => .text s
  | tuple items => .tuple (keyForms items)
  | _ => .other

def keyForms : List Value → List KeyForm
  | [] => []
  | v :: items => keyForm v :: keyForms items

end

/-- Keys without collections, dates and bytes, whose doubles are numbers or infinities. -/
inductive IsPlainKey : Value → Prop where
  | null : IsPlainKey .null
  | bool (b : Bool) : IsPlainKey (.bool b)
  | int (n : Int) : IsPlainKey (.int n)
  | real {x : Binary64} : x.IsProper → IsPlainKey (.real x)
  | text (s : String) : IsPlainKey (.text s)
  | tuple {items : List Value} : (∀ v ∈ items, IsPlainKey v) → IsPlainKey (.tuple items)

def Numeric.IsProper : Numeric → Prop
  | whole _ => True
  | real x => x.IsProper

theorem Numeric.same_iff {a b : Numeric} (ha : a.IsProper) (hb : b.IsProper) :
    a.same b = true ↔ a.keyForm = b.keyForm := by
  rcases a with m | _ | s | ⟨s, m, e⟩ <;> rcases b with n | _ | s' | ⟨s', m', e'⟩
  all_goals try contradiction
  · simp [same, keyForm]
  · simp [same, keyForm, Binary64.isInt, Binary64.toFraction?]
  · simp only [same, keyForm, KeyForm.number.injEq, Binary64.isInt_iff]
    exact eq_comm
  · simp [same, keyForm, Binary64.isInt, Binary64.toFraction?]
  · simp [same, keyForm, Binary64.same]
  · simp [same, keyForm, Binary64.same]
  · simp only [same, keyForm, KeyForm.number.injEq, Binary64.isInt_iff]
  · simp [same, keyForm, Binary64.same]
  · simp only [same, keyForm, KeyForm.number.injEq]
    exact Binary64.same_finite_iff ha hb

theorem keyForm_of_numeric? {a : Numeric} (h : v.numeric? = some a) : v.keyForm = a.keyForm := by
  cases v <;> cases h
  · rename_i b
    cases b <;> simp [keyForm, Numeric.keyForm]
  · simp [keyForm, Numeric.keyForm]
  · simp [keyForm]

theorem IsPlainKey.isProper {a : Numeric} (hv : v.IsPlainKey) (h : v.numeric? = some a) :
    a.IsProper := by
  cases hv <;> cases h
  · trivial
  · trivial
  · assumption

theorem sameKey_of_numeric? {a b : Numeric} (h : v.numeric? = some a) (h' : w.numeric? = some b) :
    sameKey v w = a.same b := by
  cases v <;> cases h <;> cases w <;> cases h' <;> simp [sameKey, numeric?]

def KeyForm.isNumber : KeyForm → Bool
  | infinite _ | number _ => true
  | _ => false

theorem IsPlainKey.isNumber_keyForm (hv : v.IsPlainKey) :
    v.keyForm.isNumber = v.numeric?.isSome := by
  cases hv with
  | @real x hx => cases x <;> first | contradiction | rfl
  | _ => simp [keyForm, numeric?, KeyForm.isNumber]

theorem sameKey_iff_of_numeric?_ne (hv : v.IsPlainKey) (hw : w.IsPlainKey)
    (h : v.numeric?.isSome ≠ w.numeric?.isSome) :
    sameKey v w = true ↔ v.keyForm = w.keyForm := by
  have hform : v.keyForm ≠ w.keyForm := by
    intro he
    rw [← hv.isNumber_keyForm, ← hw.isNumber_keyForm, he] at h
    exact h rfl
  refine iff_of_false ?_ hform
  cases hv <;> cases hw <;> simp [sameKey, numeric?] at h ⊢

theorem sameKey_iff_of_not_tuples (hv : v.IsPlainKey) (hw : w.IsPlainKey)
    (h : ¬ ∃ xs ys, v = .tuple xs ∧ w = .tuple ys) :
    sameKey v w = true ↔ v.keyForm = w.keyForm := by
  by_cases hkind : v.numeric?.isSome = w.numeric?.isSome
  · cases ha : v.numeric? with
    | some a =>
      obtain ⟨b, hb⟩ := Option.isSome_iff_exists.mp (hkind ▸ Option.isSome_of_eq_some ha)
      rw [sameKey_of_numeric? ha hb, keyForm_of_numeric? ha, keyForm_of_numeric? hb]
      exact Numeric.same_iff (hv.isProper ha) (hw.isProper hb)
    | none =>
      have hb : w.numeric?.isSome = false := by rw [← hkind, ha, Option.isSome_none]
      cases hv <;> cases ha <;> cases hw <;> cases hb
      all_goals simp [sameKey, numeric?, keyForm] at h ⊢
  · exact sameKey_iff_of_numeric?_ne hv hw hkind

mutual

theorem sameKey_iff : {v w : Value} → v.IsPlainKey → w.IsPlainKey →
    (sameKey v w = true ↔ v.keyForm = w.keyForm)
  | v, w, hv, hw => by
    cases v with
    | tuple xs =>
      cases w with
      | tuple ys =>
        cases hv with | tuple hxs =>
        cases hw with | tuple hys =>
        rw [sameKey, keyForm, keyForm, KeyForm.tuple.injEq, sameKeys_iff hxs hys]
      | _ => exact sameKey_iff_of_not_tuples hv hw nofun
    | _ => exact sameKey_iff_of_not_tuples hv hw nofun

theorem sameKeys_iff : {xs ys : List Value} → (∀ v ∈ xs, v.IsPlainKey) →
    (∀ w ∈ ys, w.IsPlainKey) → (sameKeys xs ys = true ↔ keyForms xs = keyForms ys)
  | [], [], _, _ => by simp [sameKeys, keyForms]
  | [], w :: ys, _, _ => by simp [sameKeys, keyForms]
  | v :: xs, [], _, _ => by simp [sameKeys, keyForms]
  | v :: xs, w :: ys, hxs, hys => by
    obtain ⟨hv, hxs⟩ := List.forall_mem_cons.mp hxs
    obtain ⟨hw, hys⟩ := List.forall_mem_cons.mp hys
    rw [sameKeys, keyForms, keyForms, Bool.and_eq_true, List.cons.injEq, sameKey_iff hv hw,
      sameKeys_iff hxs hys]

end

end Forms

section Writing

variable {out : List (Value × Value)}

/-- Whether two of the keys are equal shows in what they amount to. -/
def HasPlainKeys (entries : List (Value × Value)) : Prop := ∀ e ∈ entries, e.1.IsPlainKey

theorem sameKey_eq_false_iff (hv : v.IsPlainKey) (hw : w.IsPlainKey) :
    sameKey v w = false ↔ v.keyForm ≠ w.keyForm := by
  rw [← Bool.not_eq_true, sameKey_iff hv hw]

theorem ofPairs_append : ofPairs (pairs ++ [(key, v)]) = put (ofPairs pairs) key v := by
  rw [ofPairs, List.foldl_append]
  rfl

theorem put_of_forall_ne (h : ∀ e ∈ entries, sameKey e.1 key = false) :
    put entries key v = entries ++ [(key, v)] := by
  induction entries with
  | nil => rfl
  | cons e entries ih =>
    obtain ⟨he, hentries⟩ := List.forall_mem_cons.mp h
    rw [put, if_neg (Bool.not_eq_true _ ▸ he), ih hentries]
    rfl

theorem ofPairs_eq_self (h : HasDistinctKeys pairs) : ofPairs pairs = pairs := by
  induction pairs using List.reverseRecOn with
  | nil => rfl
  | append_singleton pairs e ih =>
    obtain ⟨hpairs, -, hlast⟩ := List.pairwise_append.mp h
    have hnew : ∀ f ∈ pairs, sameKey f.1 e.1 = false := fun f hf => hlast f hf e List.mem_cons_self
    rw [ofPairs_append, ih hpairs, put_of_forall_ne hnew]

theorem put_eq_map (hdistinct : HasDistinctKeys entries) (hplain : HasPlainKeys entries)
    (hkey : key.IsPlainKey) (h : ∃ e ∈ entries, sameKey e.1 key = true) :
    put entries key v = entries.map fun e => if sameKey e.1 key then (e.1, v) else e := by
  induction entries with
  | nil => simp at h
  | cons e entries ih =>
    obtain ⟨k, w⟩ := e
    obtain ⟨hfirst, hrest⟩ := List.pairwise_cons.mp hdistinct
    obtain ⟨hk, hplain⟩ := List.forall_mem_cons.mp hplain
    rw [put, List.map_cons]
    by_cases hsame : sameKey k key = true
    · -- the key that is found stands for all that equal it, so that no later one does
      have hothers : ∀ f ∈ entries, sameKey f.1 key = false := by
        intro f hf
        rw [sameKey_eq_false_iff (hplain f hf) hkey, ← (sameKey_iff hk hkey).mp hsame]
        exact ((sameKey_eq_false_iff hk (hplain f hf)).mp (hfirst f hf)).symm
      have hunchanged : ∀ f ∈ entries, (if sameKey f.1 key then (f.1, v) else f) = id f :=
        fun f hf => if_neg (Bool.not_eq_true _ ▸ hothers f hf)
      rw [if_pos hsame, if_pos hsame, List.map_congr_left hunchanged, List.map_id]
    · have hlater : ∃ e ∈ entries, sameKey e.1 key = true := by
        obtain ⟨f, hf, hfkey⟩ := h
        rcases List.mem_cons.mp hf with rfl | hf
        · exact absurd hfkey hsame
        · exact ⟨f, hf, hfkey⟩
      rw [if_neg hsame, if_neg hsame, ih hrest hplain hlater]

theorem HasDistinctKeys.put (hdistinct : HasDistinctKeys entries) (hplain : HasPlainKeys entries)
    (hkey : key.IsPlainKey) : HasDistinctKeys (put entries key v) := by
  by_cases hhit : ∃ e ∈ entries, sameKey e.1 key = true
  · rw [put_eq_map hdistinct hplain hkey hhit, HasDistinctKeys, List.pairwise_map]
    refine hdistinct.imp fun h => ?_
    simp only [apply_ite Prod.fst, ite_self, h]
  · have hmiss : ∀ e ∈ entries, sameKey e.1 key = false := by simpa using hhit
    rw [put_of_forall_ne hmiss, HasDistinctKeys, List.pairwise_append]
    exact ⟨hdistinct, List.pairwise_singleton .., by simpa using hmiss⟩

def IsFirstKey (pairs : List (Value × Value)) (i : Nat) (key : Value) : Prop :=
  (∃ v, pairs[i]? = some (key, v)) ∧ ∀ e ∈ pairs.take i, e.1.keyForm ≠ key.keyForm

def IsWrittenLast (pairs : List (Value × Value)) (key v : Value) : Prop :=
  ∃ before k after, pairs = before ++ (k, v) :: after ∧ k.keyForm = key.keyForm ∧
    ∀ e ∈ after, e.1.keyForm ≠ key.keyForm

/-- A map that is built from pairs has the first of each class of equal keys, in their order,
with the value that is written last under any of them. -/
def IsBuiltFrom (pairs out : List (Value × Value)) : Prop :=
  ∃ places : List Nat, places.Pairwise (· < ·) ∧
    (∀ i, i ∈ places ↔ ∃ key, IsFirstKey pairs i key) ∧
    List.Forall₂ (fun i e => IsFirstKey pairs i e.1 ∧ IsWrittenLast pairs e.1 e.2) places out

theorem isFirstKey_append {i : Nat} {e : Value × Value} :
    IsFirstKey (pairs ++ [e]) i key ↔ IsFirstKey pairs i key ∨
      i = pairs.length ∧ e.1 = key ∧ ∀ f ∈ pairs, f.1.keyForm ≠ key.keyForm := by
  obtain ⟨k, v⟩ := e
  unfold IsFirstKey
  rcases lt_trichotomy i pairs.length with hlt | rfl | hgt
  · rw [List.getElem?_append_left hlt, List.take_append_of_le_length hlt.le, or_iff_left]
    exact fun h => hlt.ne h.1
  · simp
  · have hnone : pairs[i]? = none := List.getElem?_eq_none hgt.le
    have hnone' : (pairs ++ [(k, v)])[i]? = none := List.getElem?_eq_none (by simp; omega)
    simp [hnone, hnone', hgt.ne']

theorem IsWrittenLast.append {e : Value × Value} (h : IsWrittenLast pairs key v)
    (he : e.1.keyForm ≠ key.keyForm) : IsWrittenLast (pairs ++ [e]) key v := by
  obtain ⟨before, k, after, rfl, hk, hafter⟩ := h
  refine ⟨before, k, after ++ [e], by simp, hk, fun f hf => ?_⟩
  rcases List.mem_append.mp hf with hf | hf
  · exact hafter f hf
  · exact List.mem_singleton.mp hf ▸ he

theorem isWrittenLast_append {k : Value} (h : k.keyForm = key.keyForm) :
    IsWrittenLast (pairs ++ [(k, v)]) key v :=
  ⟨pairs, k, [], rfl, h, nofun⟩

theorem IsFirstKey.mem {i : Nat} (h : IsFirstKey pairs i key) : ∃ v, (key, v) ∈ pairs := by
  obtain ⟨⟨v, hv⟩, -⟩ := h
  exact ⟨v, List.mem_of_getElem? hv⟩

theorem exists_isFirstKey {e : Value × Value} (he : e ∈ pairs) :
    ∃ i key, IsFirstKey pairs i key ∧ key.keyForm = e.1.keyForm := by
  have hfirst : ∃ f, IsFirst (fun f : Value × Value => f.1.keyForm = e.1.keyForm) pairs f :=
    exists_isFirst_iff.mpr ⟨e, he, rfl⟩
  obtain ⟨⟨key, v⟩, before, after, rfl, hkey, hbefore⟩ := hfirst
  refine ⟨before.length, key, ⟨⟨v, by simp⟩, fun f hf => ?_⟩, hkey⟩
  rw [List.take_left] at hf
  exact hkey ▸ hbefore f hf

theorem isBuiltFrom_nil : IsBuiltFrom [] [] :=
  ⟨[], .nil, fun i => by simp [IsFirstKey], .nil⟩

theorem IsFirstKey.lt {i : Nat} (h : IsFirstKey pairs i key) : i < pairs.length := by
  obtain ⟨⟨v, hv⟩, -⟩ := h
  exact (List.getElem?_eq_some_iff.mp hv).1

theorem IsFirstKey.unique {i : Nat} {key' : Value} (h : IsFirstKey pairs i key)
    (h' : IsFirstKey pairs i key') : key = key' := by
  obtain ⟨⟨v, hv⟩, -⟩ := h
  obtain ⟨⟨v', hv'⟩, -⟩ := h'
  cases hv.symm.trans hv'
  rfl

theorem IsBuiltFrom.mem_key (h : IsBuiltFrom pairs out)
    {e : Value × Value} (he : e ∈ out) : ∃ v, (e.1, v) ∈ pairs := by
  obtain ⟨places, -, -, hout⟩ := h
  obtain ⟨i, -, hfirst, -⟩ := exists_of_mem_right hout he
  exact hfirst.mem

theorem IsBuiltFrom.hasPlainKeys (h : IsBuiltFrom pairs out)
    (hplain : HasPlainKeys pairs) : HasPlainKeys out := by
  intro e he
  obtain ⟨w, hw⟩ := h.mem_key he
  exact hplain (e.1, w) hw

theorem IsBuiltFrom.exists_keyForm (h : IsBuiltFrom pairs out)
    {e : Value × Value} (he : e ∈ pairs) : ∃ f ∈ out, f.1.keyForm = e.1.keyForm := by
  obtain ⟨places, -, hplaces, hout⟩ := h
  obtain ⟨i, key, hfirst, hkey⟩ := exists_isFirstKey he
  obtain ⟨f, hf, hf', -⟩ := exists_of_mem_left hout ((hplaces i).mpr ⟨key, hfirst⟩)
  exact ⟨f, hf, hf'.unique hfirst ▸ hkey⟩

theorem IsBuiltFrom.append_of_mem (h : IsBuiltFrom pairs out)
    (hplain : HasPlainKeys pairs) (hkey : key.IsPlainKey)
    (hhit : ∃ e ∈ pairs, e.1.keyForm = key.keyForm) :
    IsBuiltFrom (pairs ++ [(key, v)])
      (out.map fun e => if sameKey e.1 key then (e.1, v) else e) := by
  obtain ⟨places, hincreasing, hplaces, hout⟩ := h
  refine ⟨places, hincreasing, fun i => (hplaces i).trans ?_, ?_⟩
  · refine exists_congr fun k => Iff.symm (isFirstKey_append.trans (or_iff_left ?_))
    rintro ⟨-, rfl, hnew⟩
    obtain ⟨e, he, hform⟩ := hhit
    exact hnew e he hform
  · refine List.forall₂_map_right_iff.mpr (hout.imp ?_)
    rintro i ⟨k, w⟩ ⟨hfirst, hlast⟩
    obtain ⟨u, hu⟩ := hfirst.mem
    have hfirst' := isFirstKey_append (e := (key, v)).mpr (.inl hfirst)
    by_cases hsame : sameKey k key = true
    · rw [if_pos hsame]
      exact ⟨hfirst', isWrittenLast_append ((sameKey_iff (hplain _ hu) hkey).mp hsame).symm⟩
    · rw [if_neg hsame]
      rw [sameKey_iff (hplain _ hu) hkey] at hsame
      exact ⟨hfirst', hlast.append (Ne.symm hsame)⟩

theorem IsBuiltFrom.append_of_notMem (h : IsBuiltFrom pairs out)
    (hmiss : ∀ e ∈ out, e.1.keyForm ≠ key.keyForm) :
    IsBuiltFrom (pairs ++ [(key, v)]) (out ++ [(key, v)]) := by
  have hnew : ∀ e ∈ pairs, e.1.keyForm ≠ key.keyForm := by
    intro e he hkey
    obtain ⟨f, hf, hform⟩ := h.exists_keyForm he
    exact hmiss f hf (hform.trans hkey)
  obtain ⟨places, hincreasing, hplaces, hout⟩ := h
  have hlast : IsFirstKey (pairs ++ [(key, v)]) pairs.length key :=
    isFirstKey_append.mpr (.inr ⟨rfl, rfl, hnew⟩)
  refine ⟨places ++ [pairs.length], ?_, fun i => ?_, ?_⟩
  · refine List.pairwise_append.mpr ⟨hincreasing, List.pairwise_singleton .., fun i hi j hj => ?_⟩
    obtain ⟨k, hfirst⟩ := (hplaces i).mp hi
    exact List.mem_singleton.mp hj ▸ hfirst.lt
  · rw [List.mem_append, hplaces, List.mem_singleton]
    constructor
    · rintro (⟨k, hfirst⟩ | rfl)
      · exact ⟨k, isFirstKey_append.mpr (.inl hfirst)⟩
      · exact ⟨key, hlast⟩
    · rintro ⟨k, hfirst⟩
      rcases isFirstKey_append.mp hfirst with hfirst | ⟨hi, -⟩
      · exact .inl ⟨k, hfirst⟩
      · exact .inr hi
  · refine List.rel_append (hout.imp ?_) (.cons ⟨hlast, isWrittenLast_append rfl⟩ .nil)
    rintro i e ⟨hfirst, hwritten⟩
    obtain ⟨u, hu⟩ := hfirst.mem
    exact ⟨isFirstKey_append.mpr (.inl hfirst), hwritten.append (hnew _ hu).symm⟩

theorem IsBuiltFrom.put (h : IsBuiltFrom pairs out)
    (hdistinct : HasDistinctKeys out) (hplain : HasPlainKeys pairs) (hkey : key.IsPlainKey) :
    IsBuiltFrom (pairs ++ [(key, v)]) (put out key v) := by
  have hplainOut := h.hasPlainKeys hplain
  by_cases hhit : ∃ e ∈ out, sameKey e.1 key = true
  · rw [put_eq_map hdistinct hplainOut hkey hhit]
    refine h.append_of_mem hplain hkey ?_
    obtain ⟨e, he, hsame⟩ := hhit
    obtain ⟨w, hw⟩ := h.mem_key he
    exact ⟨_, hw, (sameKey_iff (hplainOut e he) hkey).mp hsame⟩
  · have hmiss : ∀ e ∈ out, sameKey e.1 key = false := by simpa using hhit
    rw [put_of_forall_ne hmiss]
    refine h.append_of_notMem fun e he => ?_
    exact (sameKey_eq_false_iff (hplainOut e he) hkey).mp (hmiss e he)

/-- A map built from pairs has distinct keys, each the first of those that equal it, in their
order and with what was written last. -/
theorem isBuiltFrom_ofPairs (h : HasPlainKeys pairs) :
    HasDistinctKeys (ofPairs pairs) ∧ IsBuiltFrom pairs (ofPairs pairs) := by
  induction pairs using List.reverseRecOn with
  | nil => exact ⟨.nil, isBuiltFrom_nil⟩
  | append_singleton pairs e ih =>
    obtain ⟨key, v⟩ := e
    obtain ⟨hpairs, he⟩ := List.forall_mem_append.mp h
    obtain ⟨hdistinct, hbuilt⟩ := ih hpairs
    have hkey : key.IsPlainKey := he _ List.mem_cons_self
    rw [ofPairs_append]
    exact ⟨hdistinct.put (hbuilt.hasPlainKeys hpairs) hkey, hbuilt.put hdistinct hpairs hkey⟩

end Writing

end SchemaJoins.Value
