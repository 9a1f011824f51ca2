import SchemaJoins.Files.Path
import SchemaJoins.Proofs.Text.Split

/-! # Paths in writing

A path that is written reads back as it was, so that paths that are written alike are
the same.
-/

namespace SchemaJoins.Files.Path

variable {p q : Path}

/-- The steps lead somewhere, each by one name, and the slashes are those of a root. -/
structure IsProper (p : Path) : Prop where
  root : p.root ∈ ["", "/", "//"]
  steps : ∀ s ∈ p.steps, isStep s = true ∧ '/' ∉ s.toList

theorem isProper_ofText (text : String) : (ofText text).IsProper := by
  refine ⟨?_, fun s hs => ?_⟩
  · change rootOf _ ∈ _
    unfold rootOf
    split
    · simp
    · split <;> simp
  · obtain ⟨hpart, hstep⟩ := List.mem_filter.mp hs
    obtain ⟨part, hmem, rfl⟩ := List.mem_map.mp hpart
    rw [Text.splitOn_eq] at hmem
    rw [String.toList_ofList]
    exact ⟨hstep, Text.notMem_of_mem_splitOn hmem⟩

def stepsOf (cs : List Char) : List String :=
  ((Text.splitOn '/' cs).map String.ofList).filter isStep

theorem takeWhile_slashes {cs : List Char} (hcs : cs.head? ≠ some '/') (n : Nat) :
    (List.replicate n '/' ++ cs).takeWhile (· == '/') = List.replicate n '/' := by
  rw [List.takeWhile_append_of_pos (by simp)]
  cases cs with
  | nil => simp
  | cons c cs =>
    have hc : (c == '/') = false := beq_false_of_ne fun h => hcs (congrArg some h)
    simp [hc]

theorem stepsOf_slashes (n : Nat) (cs : List Char) :
    stepsOf (List.replicate n '/' ++ cs) = stepsOf cs := by
  induction n with
  | zero => rfl
  | succ n ih =>
    rw [← ih, List.replicate_succ, List.cons_append, stepsOf, Text.splitOn, if_pos rfl]
    exact List.filter_cons_of_neg (by decide)

theorem ofText_slashes {cs : List Char} (hcs : cs.head? ≠ some '/') (n : Nat) :
    ofText (String.ofList (List.replicate n '/' ++ cs)) = ⟨rootOf n, stepsOf cs⟩ := by
  rw [ofText, String.toList_ofList, takeWhile_slashes hcs, List.length_replicate]
  exact congrArg _ (stepsOf_slashes n cs)

theorem stepsOf_intercalate {steps : List String} (hne : steps ≠ [])
    (h : ∀ s ∈ steps, isStep s = true ∧ '/' ∉ s.toList) :
    stepsOf ("/".intercalate steps).toList = steps := by
  have hnames : ∀ s : String, (String.ofList ∘ String.toList) s = s := fun _ => String.ofList_toList
  rw [stepsOf, Text.splitOn_intercalate_of_notMem rfl hne fun s hs => (h s hs).2, List.map_map,
    List.map_congr_left fun s _ => hnames s, List.map_id']
  exact List.filter_eq_self.mpr fun s hs => (h s hs).1

theorem head?_intercalate {s : String} (hs : s ≠ "") (hslash : '/' ∉ s.toList)
    (steps : List String) :
    ("/".intercalate (s :: steps)).toList.head? ≠ some '/' := by
  obtain ⟨c, cs, hc⟩ := List.exists_cons_of_ne_nil fun h => hs (String.toList_eq_nil_iff.mp h)
  obtain ⟨rest, hstart⟩ := Text.exists_toList_intercalate "/" s steps
  rw [hstart, hc, List.cons_append, List.head?_cons]
  intro h
  exact hslash (by rw [hc, Option.some.inj h]; exact List.mem_cons_self)

theorem ofText_text (h : p.IsProper) : ofText p.text = p := by
  obtain ⟨root, steps⟩ := p
  have hroot : ∃ n, root.toList = List.replicate n '/' ∧ rootOf n = root := by
    have hroot := h.root
    simp only [List.mem_cons, List.not_mem_nil, or_false] at hroot
    obtain rfl | rfl | rfl := hroot
    · exact ⟨0, rfl, rfl⟩
    · exact ⟨1, rfl, rfl⟩
    · exact ⟨2, rfl, rfl⟩
  obtain ⟨n, hslashes, hn⟩ := hroot
  have hread {cs : List Char} (hcs : cs.head? ≠ some '/') :
      ofText (root ++ String.ofList cs) = ⟨root, stepsOf cs⟩ := by
    have htext : root ++ String.ofList cs = String.ofList (List.replicate n '/' ++ cs) := by
      rw [String.ofList_append, ← hslashes, String.ofList_toList]
    rw [htext, ofText_slashes hcs, hn]
  cases steps with
  | nil =>
    unfold text
    split
    · rename_i hempty
      obtain rfl : root = "" := by simpa using hempty
      rfl
    · exact hread (by simp)
  | cons s steps =>
    obtain ⟨hs, hslash⟩ := h.steps s List.mem_cons_self
    have hs : s ≠ "" := fun h => by simp [isStep, h] at hs
    have hproper := hread (head?_intercalate hs hslash steps)
    rw [String.ofList_toList, stepsOf_intercalate (List.cons_ne_nil s steps) h.steps] at hproper
    have htext : text ⟨root, s :: steps⟩ = root ++ "/".intercalate (s :: steps) := if_neg (by simp)
    rw [htext, hproper]

theorem text_injective (hp : p.IsProper) (hq : q.IsProper) (h : p.text = q.text) : p = q := by
  rw [← ofText_text hp, h, ofText_text hq]

section Characters

variable {c : Char}

theorem mem_of_mem_splitOn {separator : Char} {part : List Char} : {cs : List Char} →
    part ∈ Text.splitOn separator cs → c ∈ part → c ∈ cs
  | [], hpart, hc => by
    rw [List.mem_singleton.mp hpart] at hc
    cases hc
  | d :: cs, hpart, hc => by
    unfold Text.splitOn at hpart
    split at hpart
    · obtain rfl | hpart := List.mem_cons.mp hpart
      · cases hc
      · exact List.mem_cons_of_mem d (mem_of_mem_splitOn hpart hc)
    · split at hpart
      · rw [List.mem_singleton.mp hpart] at hc
        exact List.mem_singleton.mp hc ▸ List.mem_cons_self
      · rename_i first rest hrest
        have hmem {part : List Char} (hpart : part ∈ first :: rest) (hc : c ∈ part) : c ∈ cs :=
          mem_of_mem_splitOn (hrest ▸ hpart) hc
        obtain rfl | hpart := List.mem_cons.mp hpart
        · exact (List.mem_cons.mp hc).elim (fun h => h ▸ List.mem_cons_self)
            fun hc => List.mem_cons_of_mem d (hmem List.mem_cons_self hc)
        · exact List.mem_cons_of_mem d (hmem (List.mem_cons_of_mem first hpart) hc)

theorem mem_intercalate {steps : List String} (h : c ∈ ("/".intercalate steps).toList) :
    c = '/' ∨ ∃ s ∈ steps, c ∈ s.toList := by
  rw [String.toList_intercalate] at h
  obtain h | ⟨part, hpart, h⟩ := Text.mem_of_mem_intercalate h
  · exact .inl h
  · obtain ⟨s, hs, rfl⟩ := List.mem_map.mp hpart
    exact .inr ⟨s, hs, h⟩

theorem mem_text {name : String} (h : c ∈ (ofText name).text.toList) :
    c = '.' ∨ c = '/' ∨ c ∈ name.toList := by
  unfold text at h
  split at h
  · exact .inl (List.mem_singleton.mp h)
  · rw [String.toList_append, List.mem_append] at h
    obtain h | h := h
    · have hslash : ∀ root ∈ ["", "/", "//"], root.toList.all (· == '/') = true := by decide
      have hroot := List.all_eq_true.mp (hslash _ (isProper_ofText name).root) c h
      exact .inr (.inl (beq_iff_eq.mp hroot))
    · obtain h | ⟨s, hs, h⟩ := mem_intercalate h
      · exact .inr (.inl h)
      · obtain ⟨part, hpart, rfl⟩ := List.mem_map.mp (List.mem_of_mem_filter hs)
        rw [String.toList_ofList] at h
        exact .inr (.inr (mem_of_mem_splitOn hpart h))

end Characters

end SchemaJoins.Files.Path
