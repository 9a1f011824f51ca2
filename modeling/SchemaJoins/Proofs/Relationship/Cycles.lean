import SchemaJoins.Proofs.Cycle.Rotation
import SchemaJoins.Relationship.Cycle

/-! # The cycles among entities

The cycles of relationships are the rings of the relation that they span: direct
relationships lead from source to target, and junctions, on demand, from source
to junction and on to the target. Each is reported once: names in the order of their
characters have one smallest among them, so that rotations have one canonical form.
-/

namespace SchemaJoins

def Value.IsText (v : Value) : Prop := ∃ s, v = .text s

namespace Relationship

/-- Some relationship leads from the one entity to the other. -/
inductive Leads (throughJunctions : Bool) (rs : List Relationship) : Value → Value → Prop where
  | direct {r : Relationship} {kind : DirectKind} {ownerKey relatedKey : List String} :
      r ∈ rs → r.shape = .direct kind ownerKey relatedKey →
      Leads throughJunctions rs r.source r.target
  | intoJunction {r : Relationship} {junction : Value} :
      throughJunctions = true → r ∈ rs → r.junction? = some junction →
      Leads throughJunctions rs r.source junction
  | outOfJunction {r : Relationship} {junction : Value} :
      throughJunctions = true → r ∈ rs → r.junction? = some junction →
      Leads throughJunctions rs junction r.target

variable {throughJunctions : Bool} {rs : List Relationship}

theorem shape_of_junction {r : Relationship} {junction : Value} (h : r.junction? = some junction) :
    ∃ ownerSide relatedSide ownerColumn relatedColumn,
      r.shape = .manyToMany junction ownerSide relatedSide ownerColumn relatedColumn := by
  unfold junction? at h
  split at h
  · rename_i hs
    cases h
    exact ⟨_, _, _, _, hs⟩
  · cases h

theorem mem_allEdges {a b : Value} :
    (a, b) ∈ allEdges throughJunctions rs ↔ Leads throughJunctions rs a b := by
  rw [allEdges, List.mem_flatMap]
  constructor
  · rintro ⟨r, hr, he⟩
    unfold edges at he
    split at he
    · obtain ⟨rfl, rfl⟩ := Prod.mk.inj (List.mem_singleton.mp he)
      exact .direct hr ‹_›
    · rename_i junction _ _ _ _ hs
      have hj : r.junction? = some junction := by simp [junction?, hs]
      split at he
      · rcases List.mem_pair.mp he with he | he
        · obtain ⟨rfl, rfl⟩ := Prod.mk.inj he
          exact .intoJunction ‹_› hr hj
        · obtain ⟨rfl, rfl⟩ := Prod.mk.inj he
          exact .outOfJunction ‹_› hr hj
      · exact absurd he List.not_mem_nil
    · exact absurd he List.not_mem_nil
  · intro h
    cases h with
    | direct hr hs => exact ⟨_, hr, by simp [edges, hs]⟩
    | intoJunction ht hr hj =>
      obtain ⟨_, _, _, _, hs⟩ := shape_of_junction hj
      exact ⟨_, hr, by simp [edges, hs, ht]⟩
    | outOfJunction ht hr hj =>
      obtain ⟨_, _, _, _, hs⟩ := shape_of_junction hj
      exact ⟨_, hr, by simp [edges, hs, ht]⟩

def textEdge (e : String × String) : Value × Value := (.text e.1, .text e.2)

theorem textEdges?_map (es : List (String × String)) : textEdges? (es.map textEdge) = some es := by
  induction es with
  | nil => rfl
  | cons e es ih => simp [textEdges?, textEdge, ih]

theorem exists_map_textEdge : {es : List (Value × Value)} →
    (∀ e ∈ es, e.1.IsText ∧ e.2.IsText) → ∃ ts : List (String × String), es = ts.map textEdge
  | [], _ => ⟨[], rfl⟩
  | (a, b) :: es, h => by
    obtain ⟨⟨s, hs⟩, ⟨t, ht⟩⟩ := h _ List.mem_cons_self
    obtain ⟨ts, rfl⟩ := exists_map_textEdge fun e he => h e (List.mem_cons_of_mem _ he)
    exact ⟨(s, t) :: ts, by simp_all [textEdge]⟩

theorem textLe_trans (a b c : String) (hab : textLe a b) (hbc : textLe b c) : textLe a c :=
  decide_eq_true (String.le_trans (of_decide_eq_true hab) (of_decide_eq_true hbc))

theorem textLe_total (a b : String) : textLe a b ∨ textLe b a := by
  simpa [textLe] using String.le_total a b

theorem textLe_antisymm (a b : String) (hab : textLe a b) (hba : textLe b a) : a = b :=
  String.le_antisymm (of_decide_eq_true hab) (of_decide_eq_true hba)

/-- Edges that start in the order of the names are searched as they stand. -/
theorem cycles_of_pairwise {depth : Nat} {es : List (String × String)}
    (he : textEdges? (allEdges throughJunctions rs) = some es)
    (hstarts : (Cycle.Adjacency.ofEdges es).nodes.Pairwise (textLe · ·)) :
    cycles depth throughJunctions rs =
      .ok (((Cycle.Adjacency.ofEdges es).nodes.flatMap fun start =>
        (Cycle.search (.ofEdges es) depth start [start]).map
          (Cycle.canonical textLe)).eraseDups.map (·.map .text)) := by
  rw [cycles, he]
  dsimp only
  rw [Cycle.find, List.mergeSort_of_pairwise hstarts]

theorem exists_source_of_leads {a b : Value} (h : Leads false rs a b) :
    ∃ r ∈ rs, r.source = a ∧ r.target = b := by
  cases h with
  | direct hr _ => exact ⟨_, hr, rfl, rfl⟩
  | intoJunction ht => cases ht
  | outOfJunction ht => cases ht

/-- Each entity on a cycle leads on to another one. -/
theorem exists_cycles_leading_on (depth : Nat)
    (htexts : ∀ a b, Leads throughJunctions rs a b → a.IsText ∧ b.IsText) :
    ∃ found : List (List String), cycles depth throughJunctions rs = .ok (found.map (·.map .text)) ∧
      ∀ path ∈ found, path ≠ [] ∧ ∀ s ∈ path, ∃ b, Leads throughJunctions rs (.text s) b := by
  obtain ⟨es, he⟩ := exists_map_textEdge fun e (hm : e ∈ allEdges throughJunctions rs) =>
    htexts e.1 e.2 (mem_allEdges.mp hm)
  refine ⟨Cycle.find textLe depth (.ofEdges es), ?_, fun path hpath => ?_⟩
  · rw [cycles, he, textEdges?_map]
  · obtain ⟨first, rest, rfl, -, hring, -⟩ := (Cycle.mem_find textLe_trans textLe_total).mp hpath
    refine ⟨nofun, fun s hs => ?_⟩
    obtain ⟨t, hedge⟩ := hring.exists_edge_of_mem hs
    rw [Cycle.Adjacency.edge_ofEdges] at hedge
    have hmem : textEdge (s, t) ∈ allEdges throughJunctions rs :=
      he ▸ List.mem_map_of_mem hedge
    exact ⟨.text t, mem_allEdges.mp hmem⟩

/-- The cycles of at most `depth` steps are the closed paths of the rings of that
length, each once and entered at its smallest entity. -/
theorem mem_cycles_iff_ring (depth : Nat) (throughJunctions : Bool) (rs : List Relationship)
    (htexts : ∀ a b, Leads throughJunctions rs a b → a.IsText ∧ b.IsText) :
    ∃ found : List (List String),
      cycles depth throughJunctions rs = .ok (found.map (·.map .text)) ∧ found.Nodup ∧
      ∀ path, path ∈ found ↔
        ∃ first rest, path = Cycle.closedPath first rest ∧ (first :: rest).length ≤ depth ∧
          Cycle.IsRing (fun s t => Leads throughJunctions rs (.text s) (.text t)) first rest ∧
          ∀ x ∈ rest, first ≤ x := by
  obtain ⟨es, he⟩ := exists_map_textEdge fun e (hm : e ∈ allEdges throughJunctions rs) =>
    htexts e.1 e.2 (mem_allEdges.mp hm)
  have hedge : (Cycle.Adjacency.ofEdges es).Edge =
      fun s t => Leads throughJunctions rs (.text s) (.text t) := by
    funext s t
    rw [Cycle.Adjacency.edge_ofEdges, ← mem_allEdges, he]
    simp [textEdge]
  refine ⟨Cycle.find textLe depth (.ofEdges es), ?_, Cycle.nodup_find .., fun path => ?_⟩
  · rw [cycles, he, textEdges?_map]
  · rw [Cycle.mem_find textLe_trans textLe_total, hedge]
    simp only [textLe, decide_eq_true_eq, List.length_cons, Nat.lt_iff_add_one_le]

/-- Posts and tags that refer to each other through a junction, and tags to tags. -/
def taggedPosts : List Relationship :=
  [⟨.text "tags", .text "posts", .text "tags", [],
      .manyToMany (.text "post_tags") (.text "post_id") (.text "tag_id") "id" "id"⟩,
    ⟨.text "post", .text "tags", .text "posts", [], .direct .belongsTo ["post_id"] ["id"]⟩,
    ⟨.text "parent", .text "tags", .text "tags", [],
      .selfReference .belongsTo .adjacencyList ["parent_id"] ["id"]⟩]

theorem mem_cycles_iff_ring_taggedPosts :
    (∀ a b, Leads true taggedPosts a b → a.IsText ∧ b.IsText) ∧
    ∃ found : List (List String),
      cycles 3 true taggedPosts = .ok (found.map (·.map .text)) ∧ found.Nodup ∧
      ∀ path, path ∈ found ↔
        ∃ first rest, path = Cycle.closedPath first rest ∧ (first :: rest).length ≤ 3 ∧
          Cycle.IsRing (fun s t => Leads true taggedPosts (.text s) (.text t)) first rest ∧
          ∀ x ∈ rest, first ≤ x := by
  have htexts : ∀ a b, Leads true taggedPosts a b → a.IsText ∧ b.IsText := by
    intro a b h
    have hm := mem_allEdges.mpr h
    simp only [allEdges, taggedPosts, edges, List.flatMap_cons, List.flatMap_nil, if_true] at hm
    simp only [List.cons_append, List.nil_append, List.mem_cons, List.not_mem_nil, or_false,
      Prod.mk.injEq] at hm
    rcases hm with ⟨rfl, rfl⟩ | ⟨rfl, rfl⟩ | ⟨rfl, rfl⟩ <;> exact ⟨⟨_, rfl⟩, ⟨_, rfl⟩⟩
  exact ⟨htexts, mem_cycles_iff_ring 3 true taggedPosts htexts⟩

/-- The closed path is another one rotated to its smallest member. -/
structure IsRotatedToLeast (form path : List String) : Prop where
  closedPath : Cycle.IsClosedPath form
  rotation : Cycle.IsRotation form path
  least : ∃ m ∈ path, form.head? = some m ∧ form.getLast? = some m ∧ ∀ x ∈ path, m ≤ x

theorem isRotatedToLeast_canonical {path : List String} (h : Cycle.IsClosedPath path) :
    IsRotatedToLeast (Cycle.canonical textLe path) path where
  closedPath := h.canonical textLe_trans textLe_total
  rotation := h.isRotation_canonical textLe_trans textLe_total
  least := by
    obtain ⟨m, hm, hfirst, hlast, hle⟩ := h.exists_least textLe_trans textLe_total
    exact ⟨m, hm, hfirst, hlast, fun x hx => of_decide_eq_true (hle x hx)⟩

/-- Canonical forms are settled, and stand for closed paths up to rotation: what is found
keeps every cycle that the searches report, and no two rotations of one. -/
theorem canonical_eq_iff_isRotation :
    (∀ path : List String,
      Cycle.canonical textLe (Cycle.canonical textLe path) = Cycle.canonical textLe path) ∧
    (∀ path, Cycle.IsClosedPath path → IsRotatedToLeast (Cycle.canonical textLe path) path) ∧
    (∀ c d, Cycle.IsClosedPath c → Cycle.IsClosedPath d →
      (Cycle.canonical textLe c = Cycle.canonical textLe d ↔ Cycle.IsRotation c d)) ∧
    (∀ cycles, (∀ c ∈ cycles, Cycle.IsClosedPath c) →
      Cycle.KeepsEachOnce (cycles.map (Cycle.canonical textLe)).eraseDups cycles) ∧
    ∀ depth (g : Cycle.Adjacency String), Cycle.KeepsEachOnce (Cycle.find textLe depth g)
      ((g.nodes.mergeSort textLe).flatMap fun start => Cycle.search g depth start [start]) := by
  refine ⟨?_, fun path => isRotatedToLeast_canonical, fun c d hc hd => ?_, fun cycles h => ?_,
    fun depth g => ?_⟩
  · exact Cycle.canonical_canonical textLe_trans textLe_total
  · exact Cycle.canonical_eq_iff textLe_trans textLe_total textLe_antisymm hc hd
  · exact Cycle.keepsEachOnce_eraseDups textLe_trans textLe_total textLe_antisymm h
  · exact Cycle.keepsEachOnce_find textLe_trans textLe_total textLe_antisymm depth g

/-- The smallest member stands in the middle of the one path and last in the other. -/
theorem canonical_eq_iff_isRotation_orders :
    let c := ["orders", "customers", "items", "orders"]
    let d := ["items", "orders", "customers", "items"]
    Cycle.IsClosedPath c ∧ Cycle.IsClosedPath d ∧ Cycle.IsRotation c d ∧
      Cycle.canonical textLe c = Cycle.canonical textLe d ∧
      Cycle.KeepsEachOnce ([c, d].map (Cycle.canonical textLe)).eraseDups [c, d] := by
  intro c d
  have hc : Cycle.IsClosedPath c := ⟨by decide, by decide, by decide⟩
  have hd : Cycle.IsClosedPath d := ⟨by decide, by decide, by decide⟩
  have hrotation : Cycle.IsRotation c d := ⟨2, rfl⟩
  obtain ⟨-, -, hiff, hkeeps, -⟩ := canonical_eq_iff_isRotation
  refine ⟨hc, hd, hrotation, (hiff c d hc hd).mpr hrotation, hkeeps [c, d] ?_⟩
  simp [hc, hd]

end Relationship

end SchemaJoins
