import Mathlib.Data.List.TakeWhile
import SchemaJoins.Proofs.Source.Literal
import SchemaJoins.Source.Joins

/-! # The outermost joins

The search goes through a tree from above and in order. A map display is asked for its
joins when it is reached, a call or class only argument by argument. So the joins of a
display come before all within it, and those of a call before all within it but what
stands in front of them: that is the one way in which joins further in are taken for
those of the expression around them.
-/

namespace SchemaJoins.Source.Node

variable {n m k v tree : Node} {above earlier : List Node}

section Children

/-- What a node is made of, in the order of the search: the keys of a map display
come before its values. -/
def children : Node → List Node
  | constant .. => []
  | sign _ _ operand => [operand]
  | list _ items => items
  | tuple _ items => items
  | map _ entries => entries.filterMap (·.1) ++ entries.map (·.2)
  | argument _ value => [value]
  | other _ _ parts => parts

theorem mem_children : m ∈ n.children ↔ m ∈ n.parts := by
  cases n with
  | map line entries =>
    simp only [children, parts, List.mem_append, List.mem_filterMap, List.mem_map,
      List.mem_flatMap, Option.mem_toList, List.mem_singleton]
    constructor
    · rintro (⟨e, he, hkey⟩ | ⟨e, he, rfl⟩)
      · exact ⟨e, he, .inl hkey⟩
      · exact ⟨e, he, .inr rfl⟩
    · rintro ⟨e, he, hkey | rfl⟩
      · exact .inl ⟨e, he, hkey⟩
      · exact .inr ⟨e, he, rfl⟩
  | _ => rfl

theorem sizeOf_lt_of_mem_children (h : m ∈ n.children) : sizeOf m < sizeOf n := by
  cases n with
  | constant line c => cases h
  | sign line negative operand =>
    obtain rfl := List.mem_singleton.mp h
    simp
  | list line items =>
    have hm : m ∈ items := h
    have := List.sizeOf_lt_of_mem hm
    simp only [list.sizeOf_spec]
    omega
  | tuple line items =>
    have hm : m ∈ items := h
    have := List.sizeOf_lt_of_mem hm
    simp only [tuple.sizeOf_spec]
    omega
  | map line entries =>
    obtain ⟨⟨key, value⟩, he, hm⟩ := List.mem_flatMap.mp (mem_children.mp h)
    have hentry := List.sizeOf_lt_of_mem he
    simp only [Prod.mk.sizeOf_spec] at hentry
    simp only [map.sizeOf_spec]
    obtain hkey | hvalue := List.mem_append.mp hm
    · obtain rfl := Option.mem_toList.mp hkey
      simp only [Option.some.sizeOf_spec] at hentry
      omega
    · obtain rfl := List.mem_singleton.mp hvalue
      omega
  | argument name value =>
    obtain rfl := List.mem_singleton.mp h
    simp only [argument.sizeOf_spec]
    omega
  | other line form parts =>
    have hm : m ∈ parts := h
    have := List.sizeOf_lt_of_mem hm
    simp only [other.sizeOf_spec]
    omega

theorem induction_children {motive : Node → Prop}
    (step : ∀ n, (∀ m ∈ n.children, motive m) → motive n) (n : Node) : motive n :=
  step n fun m _ => induction_children step m
termination_by n
decreasing_by exact sizeOf_lt_of_mem_children ‹_›

end Children

section Holders

def displayed? : Node → Option Node
  | map _ entries => directJoins? entries
  | _ => none

def given? : Node → Option Node
  | argument name value => if name == some joinsName then some value else none
  | _ => none

def held? (n : Node) : Option Node := n.displayed?.or n.given?

/-- The joins that a node carries: its own as a map display, or those of the first
argument that gives some. Arguments by name stand in calls and classes. -/
def carried? (n : Node) : Option Node := n.displayed?.or (n.children.findSome? given?)

def LacksJoins (n : Node) : Prop := ∀ k, Within k n → k.held? = none

/-- What the search goes through in a node before it comes to the joins that the node
carries: nothing in a display, the parts in front of the argument elsewhere. -/
def front (n : Node) : List Node :=
  if n.displayed?.isSome then [] else n.children.takeWhile fun m => m.given?.isNone

theorem held?_eq_none : n.held? = none ↔ n.displayed? = none ∧ n.given? = none :=
  Option.or_eq_none_iff

theorem carried?_eq_none :
    n.carried? = none ↔ n.displayed? = none ∧ ∀ m ∈ n.children, m.given? = none := by
  rw [carried?, Option.or_eq_none_iff, List.findSome?_eq_none_iff]

theorem lacksJoins_iff :
    n.LacksJoins ↔ n.held? = none ∧ ∀ m ∈ n.children, m.LacksJoins := by
  constructor
  · intro h
    exact ⟨h n (.self n), fun m hm k hk => h k (.part (mem_children.mp hm) hk)⟩
  · rintro ⟨hself, hchildren⟩ k hk
    cases hk with
    | self => exact hself
    | part hm hk => exact hchildren _ (mem_children.mpr hm) k hk

theorem LacksJoins.given?_eq_none (h : n.LacksJoins) : n.given? = none :=
  (held?_eq_none.mp (lacksJoins_iff.mp h).1).2

theorem not_lacksJoins_of_carried? (hk : Within k n) (h : k.carried? ≠ none) :
    ¬ n.LacksJoins := by
  induction hk with
  | self n =>
    intro hlacks
    obtain ⟨hself, hchildren⟩ := lacksJoins_iff.mp hlacks
    refine h (carried?_eq_none.mpr ⟨(held?_eq_none.mp hself).1, fun m hm => ?_⟩)
    exact (hchildren m hm).given?_eq_none
  | part hm _ ih => exact fun hlacks => ih h ((lacksJoins_iff.mp hlacks).2 _ (mem_children.mpr hm))

/-- Where nothing carries joins there are none, unless they are given to nobody. -/
theorem lacksJoins_iff_carried? (hroot : n.given? = none) :
    n.LacksJoins ↔ ∀ k, Within k n → k.carried? = none := by
  constructor
  · intro hlacks k hk
    by_contra h
    exact not_lacksJoins_of_carried? hk h hlacks
  · induction n using induction_children with
    | step n ih =>
      intro h
      obtain ⟨hdisplayed, hgiven⟩ := carried?_eq_none.mp (h n (.self n))
      refine lacksJoins_iff.mpr ⟨held?_eq_none.mpr ⟨hdisplayed, hroot⟩, fun m hm => ?_⟩
      exact ih m hm (hgiven m hm) fun k hk => h k (.part (mem_children.mp hm) hk)

end Holders

section Search

theorem joinsAmong?_eq (ns : List Node) : joinsAmong? ns = ns.findSome? joins? := by
  induction ns with
  | nil => rfl
  | cons n ns ih =>
    rw [joinsAmong?, List.findSome?_cons, ih]
    cases n.joins? with
    | some value => rfl
    | none => rfl

theorem joinsInKeys?_eq : (entries : List (Option Node × Node)) →
    joinsInKeys? entries = joinsAmong? (entries.filterMap (·.1))
  | [] => rfl
  | (none, _) :: rest => joinsInKeys?_eq rest
  | (some key, _) :: rest => by
    rw [joinsInKeys?, joinsInKeys?_eq rest]
    rfl

theorem joinsInValues?_eq : (entries : List (Option Node × Node)) →
    joinsInValues? entries = joinsAmong? (entries.map (·.2))
  | [] => rfl
  | (_, value) :: rest => by
    rw [joinsInValues?, joinsInValues?_eq rest]
    rfl

theorem joins?_eq (n : Node) : n.joins? = n.held?.or (joinsAmong? n.children) := by
  cases n with
  | constant line c => rfl
  | sign line negative operand =>
    rw [joins?, children, joinsAmong?_eq, List.findSome?_singleton]
    rfl
  | list line items => rfl
  | tuple line items => rfl
  | map line entries =>
    have hheld : (map line entries).held? = directJoins? entries := Option.or_none
    rw [joins?, hheld]
    cases directJoins? entries with
    | some value => rfl
    | none =>
      rw [Option.none_or, children, joinsAmong?_eq, List.findSome?_append, ← joinsAmong?_eq,
        ← joinsAmong?_eq, ← joinsInKeys?_eq, ← joinsInValues?_eq]
      cases joinsInKeys? entries with
      | some value => rfl
      | none => rfl
  | argument name value =>
    have hheld : (argument name value).held? =
      if name == some joinsName then some value else none := rfl
    rw [joins?, children, joinsAmong?_eq, List.findSome?_singleton, hheld]
    split
    · rfl
    · rfl
  | other line form parts => rfl

theorem joins?_eq_none_iff (n : Node) : n.joins? = none ↔ n.LacksJoins := by
  induction n using induction_children with
  | step n ih =>
    rw [joins?_eq, Option.or_eq_none_iff, joinsAmong?_eq, List.findSome?_eq_none_iff,
      lacksJoins_iff]
    exact and_congr_right fun _ => forall₂_congr ih

theorem joins?_of_held? (h : n.held? = some v) : n.joins? = some v := by
  rw [joins?_eq, h]
  rfl

theorem joins?_of_given? (h : n.given? = some v) : n.joins? = some v := by
  cases n with
  | argument name value => exact joins?_of_held? h
  | _ => cases h

theorem joins?_eq_some_of_held? (h : n.held? = none) :
    n.joins? = some v ↔ ∃ before m after, n.children = before ++ m :: after ∧
      m.joins? = some v ∧ ∀ b ∈ before, b.LacksJoins := by
  rw [joins?_eq, h, Option.none_or, joinsAmong?_eq, List.findSome?_eq_some_iff]
  simp only [joins?_eq_none_iff]

end Search

section Fronts

theorem front_of_displayed? (h : n.displayed? ≠ none) : n.front = [] :=
  if_pos (Option.isSome_iff_ne_none.mpr h)

theorem front_eq (h : n.displayed? = none) :
    n.front = n.children.takeWhile fun m => m.given?.isNone := by
  rw [front, h]
  rfl

theorem front_of_given? {before after : List Node} (h : n.displayed? = none)
    (hchildren : n.children = before ++ m :: after) (hbefore : ∀ b ∈ before, b.given? = none)
    (hm : m.given? = some v) : n.front = before := by
  rw [front_eq h, hchildren, List.takeWhile_append_of_pos fun b hb => by simp [hbefore b hb],
    List.takeWhile_cons_of_neg (by simp [hm]), List.append_nil]

theorem mem_front {before after : List Node} (h : n.displayed? = none)
    (hchildren : n.children = before ++ m :: after) (hbefore : ∀ b ∈ before, b.given? = none)
    (hm : m.given? = none) : m ∈ n.front := by
  rw [front_eq h, hchildren, List.takeWhile_append_of_pos fun b hb => by simp [hbefore b hb],
    List.takeWhile_cons_of_pos (by simp [hm])]
  simp

theorem carried?_eq_some_of_displayed? (h : n.displayed? = none) :
    n.carried? = some v ↔ ∃ m after, n.children = n.front ++ m :: after ∧ m.given? = some v := by
  rw [carried?, h, Option.none_or, List.findSome?_eq_some_iff]
  constructor
  · rintro ⟨before, m, after, hchildren, hm, hbefore⟩
    rw [front_of_given? h hchildren hbefore hm]
    exact ⟨m, after, hchildren, hm⟩
  · rintro ⟨m, after, hchildren, hm⟩
    refine ⟨n.front, m, after, hchildren, hm, fun b hb => ?_⟩
    rw [front_eq h] at hb
    simpa using List.mem_takeWhile_imp hb

theorem joins?_of_carried? (h : n.carried? = some v) (hgiven : n.given? = none)
    (hfront : ∀ m ∈ n.front, m.LacksJoins) : n.joins? = some v := by
  cases hdisplayed : n.displayed? with
  | some w =>
    rw [carried?, hdisplayed] at h
    exact joins?_of_held? (by rw [held?, hdisplayed, ← h]; rfl)
  | none =>
    obtain ⟨m, after, hchildren, hm⟩ := (carried?_eq_some_of_displayed? hdisplayed).mp h
    exact (joins?_eq_some_of_held? (held?_eq_none.mpr ⟨hdisplayed, hgiven⟩)).mpr
      ⟨n.front, m, after, hchildren, joins?_of_given? hm, hfront⟩

end Fronts

section Ways

/-- A way down a tree to a node: the nodes that it goes through, and their parts that
stand in front of it. -/
inductive Way : Node → List Node → List Node → Node → Prop where
  | here (n : Node) : Way n [] [] n
  | down {n m k : Node} {before after above earlier : List Node} :
      n.children = before ++ m :: after → Way m above earlier k →
      Way n (n :: above) (before ++ earlier) k

theorem Way.within (h : Way tree above earlier n) : Within n tree := by
  induction h with
  | here n => exact .self n
  | down hchildren _ ih => exact .part (mem_children.mp (by simp [hchildren])) ih

theorem Way.joins?_eq (h : Way tree above earlier n) (hn : n.joins? = some v)
    (habove : ∀ a ∈ above, a.held? = none) (hearlier : ∀ m ∈ earlier, m.LacksJoins) :
    tree.joins? = some v := by
  induction h with
  | here n => exact hn
  | down hchildren _ ih =>
    obtain ⟨htree, habove⟩ := List.forall_mem_cons.mp habove
    obtain ⟨hbefore, hearlier⟩ := List.forall_mem_append.mp hearlier
    exact (joins?_eq_some_of_held? htree).mpr
      ⟨_, _, _, hchildren, ih hn habove hearlier, hbefore⟩

theorem Way.given?_eq_none (h : Way tree above earlier n) (hn : n.given? = none)
    (habove : ∀ a ∈ above, a.held? = none) : tree.given? = none := by
  cases h with
  | here n => exact hn
  | down => exact (held?_eq_none.mp (List.forall_mem_cons.mp habove).1).2

theorem Way.exists_mem_front {a : Node} (h : Way tree above earlier n) (hn : n.given? = none)
    (habove : ∀ a ∈ above, a.held? = none) (hearlier : ∀ m ∈ earlier, m.LacksJoins)
    (ha : a ∈ above) : ∃ m ∈ a.front, Within n m := by
  induction h with
  | here n => cases ha
  | @down tree m n before after above earlier hchildren hway ih =>
    rw [List.forall_mem_cons] at habove
    obtain ⟨htree, habove⟩ := habove
    obtain ⟨hbefore, hearlier⟩ := List.forall_mem_append.mp hearlier
    obtain rfl | ha := List.mem_cons.mp ha
    · have hgiven : ∀ b ∈ before, b.given? = none := fun b hb => (hbefore b hb).given?_eq_none
      exact ⟨m, mem_front (held?_eq_none.mp htree).1 hchildren hgiven
        (hway.given?_eq_none hn habove), hway.within⟩
    · exact ih hn habove hearlier ha

end Ways

section Matches

/-- The search ends with the joins that a node carries: none of the nodes above it has
joins of its own, and nothing in front of them has any. -/
structure IsMatch (tree : Node) (above : List Node) (n v : Node) : Prop where
  carries : n.carried? = some v
  notGiven : n.given? = none
  notHeld : ∀ a ∈ above, a.held? = none
  way : ∃ earlier, Way tree above earlier n ∧ ∀ m ∈ earlier ++ n.front, m.LacksJoins

theorem IsMatch.joins?_eq (h : IsMatch tree above n v) : tree.joins? = some v := by
  obtain ⟨earlier, hway, hlacks⟩ := h.way
  obtain ⟨hearlier, hfront⟩ := List.forall_mem_append.mp hlacks
  exact hway.joins?_eq (joins?_of_carried? h.carries h.notGiven hfront) h.notHeld hearlier

theorem IsMatch.down {before after : List Node} (h : IsMatch m above n v)
    (hchildren : tree.children = before ++ m :: after) (htree : tree.held? = none)
    (hbefore : ∀ b ∈ before, b.LacksJoins) : IsMatch tree (tree :: above) n v := by
  obtain ⟨earlier, hway, hlacks⟩ := h.way
  refine ⟨h.carries, h.notGiven, List.forall_mem_cons.mpr ⟨htree, h.notHeld⟩,
    before ++ earlier, .down hchildren hway, ?_⟩
  rw [List.append_assoc]
  exact List.forall_mem_append.mpr ⟨hbefore, hlacks⟩

theorem isMatch_here (h : tree.carried? = some v) (hgiven : tree.given? = none)
    (hfront : ∀ m ∈ tree.front, m.LacksJoins) : IsMatch tree [] tree v :=
  ⟨h, hgiven, nofun, [], .here tree, hfront⟩

theorem exists_isMatch (hgiven : tree.given? = none) (h : tree.joins? = some v) :
    ∃ above n, IsMatch tree above n v := by
  induction tree using induction_children with
  | step tree ih =>
    by_cases hdisplayed : tree.displayed? = none
    · have hheld := held?_eq_none.mpr ⟨hdisplayed, hgiven⟩
      obtain ⟨before, m, after, hchildren, hm, hbefore⟩ := (joins?_eq_some_of_held? hheld).mp h
      by_cases hm' : m.given? = none
      · obtain ⟨above, n, hmatch⟩ := ih m (by simp [hchildren]) hm' hm
        exact ⟨tree :: above, n, hmatch.down hchildren hheld hbefore⟩
      · -- The search ends at an argument of this node.
        obtain ⟨w, hw⟩ := Option.ne_none_iff_exists'.mp hm'
        cases (joins?_of_given? hw).symm.trans hm
        have hfront := front_of_given? hdisplayed hchildren
          (fun b hb => (hbefore b hb).given?_eq_none) hw
        refine ⟨[], tree, isMatch_here ?_ hgiven (hfront ▸ hbefore)⟩
        exact (carried?_eq_some_of_displayed? hdisplayed).mpr ⟨m, after, hfront ▸ hchildren, hw⟩
    · obtain ⟨w, hw⟩ := Option.ne_none_iff_exists'.mp hdisplayed
      cases (joins?_of_held? (by rw [held?, hw]; rfl)).symm.trans h
      refine ⟨[], tree, isMatch_here (by rw [carried?, hw]; rfl) hgiven ?_⟩
      rw [front_of_displayed? hdisplayed]
      exact nofun

end Matches

section First

def IsFirstCarrier (tree n : Node) : Prop :=
  ∃ above earlier, Way tree above earlier n ∧ n.carried? ≠ none ∧
    (∀ a ∈ above, a.carried? = none) ∧ ∀ m ∈ earlier, m.LacksJoins

theorem eq_of_append_cons {α : Type} {x y : α} {xs xs' ys ys' : List α}
    (h : xs ++ x :: xs' = ys ++ y :: ys') : xs = ys ∧ x = y ∨ x ∈ ys ∨ y ∈ xs := by
  obtain ⟨zs, rfl, hzs⟩ | ⟨zs, rfl, hzs⟩ := List.append_eq_append_iff.mp h
  · cases zs with
    | nil => exact .inl ⟨(List.append_nil xs).symm, (List.cons.inj hzs).1⟩
    | cons z zs => exact .inr (.inl (by simp [(List.cons.inj hzs).1]))
  · cases zs with
    | nil => exact .inl ⟨List.append_nil ys, (List.cons.inj hzs).1.symm⟩
    | cons z zs => exact .inr (.inr (by simp [(List.cons.inj hzs).1]))

theorem IsFirstCarrier.unique (h : IsFirstCarrier tree n) (h' : IsFirstCarrier tree k) :
    n = k := by
  obtain ⟨above, earlier, hway, hn, habove, hearlier⟩ := h
  obtain ⟨above', earlier', hway', hk, habove', hearlier'⟩ := h'
  induction hway generalizing above' earlier' with
  | here n =>
    cases hway' with
    | here => rfl
    | down => exact absurd (List.forall_mem_cons.mp habove').1 hn
  | down hchildren hway ih =>
    obtain ⟨htree, hrest⟩ := List.forall_mem_cons.mp habove
    obtain ⟨hbefore, hpassed⟩ := List.forall_mem_append.mp hearlier
    cases hway' with
    | here => exact absurd htree hk
    | down hchildren' hway' =>
      obtain ⟨-, hrest'⟩ := List.forall_mem_cons.mp habove'
      obtain ⟨hbefore', hpassed'⟩ := List.forall_mem_append.mp hearlier'
      -- Both ways enter the same child: neither can pass what carries joins.
      obtain ⟨rfl, rfl⟩ | hm | hm' := eq_of_append_cons (hchildren.symm.trans hchildren')
      · exact ih hn hrest hpassed _ _ hway' hrest' hpassed'
      · exact absurd (hbefore' _ hm) (not_lacksJoins_of_carried? hway.within hn)
      · exact absurd (hbefore _ hm') (not_lacksJoins_of_carried? hway'.within hk)

theorem Way.exists_isFirstCarrier (h : Way tree above earlier n)
    (hearlier : ∀ m ∈ earlier, m.LacksJoins) (ha : ∃ a ∈ above, a.carried? ≠ none) :
    ∃ a ∈ above, IsFirstCarrier tree a := by
  induction h with
  | here n => simp at ha
  | @down tree m n before after above earlier hchildren hway ih =>
    obtain ⟨hbefore, hearlier⟩ := List.forall_mem_append.mp hearlier
    by_cases htree : tree.carried? = none
    · rw [List.exists_mem_cons_iff, or_iff_right (not_not.mpr htree)] at ha
      obtain ⟨a, ha, above', earlier', hway', hcarried, habove', hearlier'⟩ := ih hearlier ha
      exact ⟨a, List.mem_cons_of_mem _ ha, tree :: above', before ++ earlier',
        .down hchildren hway', hcarried, List.forall_mem_cons.mpr ⟨htree, habove'⟩,
        List.forall_mem_append.mpr ⟨hbefore, hearlier'⟩⟩
    · exact ⟨tree, List.mem_cons_self, [], [], .here tree, htree, nofun, nofun⟩

/-- What is found is not carried within anything that carries joins, exactly if there are
none in front of those of the first carrier. -/
theorem IsMatch.outermost_iff (h : IsMatch tree above n v) :
    (∀ a ∈ above, a.carried? = none) ↔
      ∀ k, IsFirstCarrier tree k → ∀ m ∈ k.front, m.LacksJoins := by
  obtain ⟨earlier, hway, hlacks⟩ := h.way
  obtain ⟨hearlier, hfront⟩ := List.forall_mem_append.mp hlacks
  have hcarries : n.carried? ≠ none := by simp [h.carries]
  constructor
  · intro habove k hk
    have hn : IsFirstCarrier tree n := ⟨above, earlier, hway, hcarries, habove, hearlier⟩
    obtain rfl := hn.unique hk
    exact hfront
  · intro hfirst
    by_contra hcarried
    have hsome : ∃ a ∈ above, a.carried? ≠ none := by simpa using hcarried
    obtain ⟨a, ha, hfirstCarrier⟩ := hway.exists_isFirstCarrier hearlier hsome
    obtain ⟨m, hm, hn⟩ := hway.exists_mem_front h.notGiven h.notHeld hearlier ha
    exact not_lacksJoins_of_carried? hn hcarries (hfirst a hfirstCarrier m hm)

/-- Joins are found in a file exactly if something in it carries some, and what is found
is carried somewhere. That is never within a display that has joins itself, and within a
call or class that does only in front of them; it is within nothing that does exactly if
there are no joins in front of those of the first carrier. -/
theorem outermost_match_iff (line : Nat) (form : Form) (parts : List Node) :
    ((other line form parts).joins? = none ↔
      ∀ n, Within n (other line form parts) → n.carried? = none) ∧
    (∀ v, (other line form parts).joins? = some v ↔
      ∃ above n, IsMatch (other line form parts) above n v) ∧
    ∀ above n v, IsMatch (other line form parts) above n v →
      (∀ a ∈ above, a.displayed? = none ∧ ∃ m ∈ a.front, Within n m) ∧
      ((∀ a ∈ above, a.carried? = none) ↔
        ∀ k, IsFirstCarrier (other line form parts) k → ∀ m ∈ k.front, m.LacksJoins) := by
  refine ⟨?_, fun v => ?_, fun above n v h => ⟨fun a ha => ?_, h.outermost_iff⟩⟩
  · rw [joins?_eq_none_iff, lacksJoins_iff_carried? rfl]
  · constructor
    · exact exists_isMatch rfl
    · rintro ⟨above, n, h⟩
      exact h.joins?_eq
  · obtain ⟨earlier, hway, hlacks⟩ := h.way
    obtain ⟨hearlier, -⟩ := List.forall_mem_append.mp hlacks
    exact ⟨(held?_eq_none.mp (h.notHeld a ha)).1,
      hway.exists_mem_front h.notGiven h.notHeld hearlier ha⟩

def emptyJoins : Node := .map 1 [(some (.constant 1 (.text joinsName)), .map 1 [])]

/-- A call of `f` with that display, and with joins by name behind it. -/
def callWithBoth : Node :=
  .other 1 .call [.other 1 .name [], emptyJoins, .argument (some joinsName)
    (.map 1 [(some (.constant 1 (.text "a")), .constant 1 (.int 1))])]

def fileWithBoth : Node := .other 1 .statement [.other 1 .statement [callWithBoth]]

theorem isFirstCarrier_callWithBoth : IsFirstCarrier fileWithBoth callWithBoth := by
  have hway : Way fileWithBoth [fileWithBoth, .other 1 .statement [callWithBoth]]
      ([] ++ ([] ++ [])) callWithBoth := .down rfl (.down rfl (.here callWithBoth))
  refine ⟨_, _, hway, nofun, ?_, nofun⟩
  exact List.forall_mem_cons.mpr ⟨rfl, List.forall_mem_singleton.mpr rfl⟩

/-- The empty joins in front are found in place of those of the call around them. -/
theorem not_outermost_fileWithBoth : fileWithBoth.joins? = some (.map 1 []) ∧
    ∀ above n v, IsMatch fileWithBoth above n v → ¬ ∀ a ∈ above, a.carried? = none := by
  refine ⟨rfl, fun above n v h habove => ?_⟩
  have hlacks : emptyJoins.LacksJoins :=
    h.outermost_iff.mp habove callWithBoth isFirstCarrier_callWithBoth emptyJoins
      (List.mem_cons_of_mem _ List.mem_cons_self)
  exact absurd (hlacks emptyJoins (.self _)) nofun

end First

end SchemaJoins.Source.Node
