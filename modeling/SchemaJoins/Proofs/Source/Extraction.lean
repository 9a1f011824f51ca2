import SchemaJoins.Proofs.Data.Faults
import SchemaJoins.Proofs.Data.Writable
import SchemaJoins.Proofs.Source.Literal
import SchemaJoins.Source.Joins

/-! # What is extracted from a text

The joins of a text are the value of one expression, which stands in the tree of a
well formed text or in a fragment of any other. Looking for them has an outcome
unless the text has a null character, or the expression has a key that cannot be
hashed and cannot be written either.
-/

namespace SchemaJoins.Source

variable {content : String} {n : Node} {x : Extraction}

namespace Node

/-- No integer in the expression, at any depth, has more digits than are written. -/
def HasShortIntegers (n : Node) : Prop :=
  ∀ line k, Within (.constant line (.int k)) n → (Value.int k).isWritable = true

theorem HasShortIntegers.part {m : Node} (h : n.HasShortIntegers) (hm : m ∈ n.parts) :
    m.HasShortIntegers := fun line k hk => h line k (.part hm hk)

section Writable

variable {α β : Type} {good : α → Prop} {good' : β → Prop} {y : Except Fault α}

/-- The result is good, and a fault shows nothing that cannot be written. -/
structure IsShown (good : α → Prop) (y : Except Fault α) : Prop where
  result : ∀ a, y = .ok a → good a
  fault : ∀ f, y = .error f → f.shown?.all Value.isWritable = true

theorem IsShown.ok {a : α} (h : good a) : IsShown good (.ok a) := by
  constructor
  · rintro _ ⟨⟩
    exact h
  · nofun

theorem IsShown.error {f : Fault} (h : f.shown?.all Value.isWritable = true) :
    IsShown good (.error f) := by
  constructor
  · nofun
  · rintro _ ⟨⟩
    exact h

theorem IsShown.bind {next : α → Except Fault β} (hy : IsShown good y)
    (hnext : ∀ a, good a → IsShown good' (next a)) : IsShown good' (y >>= next) := by
  cases y with
  | ok a => exact hnext a (hy.result a rfl)
  | error f => exact .error (hy.fault f rfl)

theorem isWritable_of_signed {negative : Bool} {v w : Value} (hv : v.isWritable = true)
    (hw : signed negative v = some w) : w.isWritable = true := by
  obtain ⟨k, rfl, rfl⟩ | ⟨x, rfl, rfl⟩ := signed_eq_some.mp hw
  · cases negative
    · exact hv
    · exact Value.isWritable_neg.trans hv
  · rfl

mutual

theorem isShown_evaluate : (n : Node) → n.HasShortIntegers →
    IsShown (fun v => v.isWritable = true) n.evaluate
  | constant line c, h => by
    rw [evaluate]
    cases c with
    | int k => exact .ok (h line k (.self _))
    | null | bool | real | text => exact .ok rfl
    | imaginary | bytes | ellipsis => exact .error rfl
  | sign line negative operand, h => by
    rw [evaluate]
    refine (isShown_evaluate operand (h.part (by simp [parts]))).bind fun v hv => ?_
    cases hsigned : signed negative v with
    | some w => exact .ok (isWritable_of_signed hv hsigned)
    | none => exact .error rfl
  | list line items, h => by
    rw [evaluate]
    refine (isShown_evaluateAll items fun m hm => h.part hm).bind fun values hvalues => ?_
    exact .ok hvalues
  | tuple line items, h => by
    rw [evaluate]
    refine (isShown_evaluateAll items fun m hm => h.part hm).bind fun values hvalues => ?_
    exact .ok hvalues
  | map line entries, h => by
    rw [evaluate]
    have hparts : ∀ e ∈ entries, ∀ m ∈ e.1.toList ++ [e.2], m.HasShortIntegers :=
      fun e he m hm => h.part (List.mem_flatMap.mpr ⟨e, he, hm⟩)
    have hnone : Value.areEntriesWritable [] = true := rfl
    exact (isShown_evaluateEntries entries hnone hparts).bind fun pairs hpairs => .ok hpairs
  | argument name value, h => by
    rw [evaluate]
    exact .error rfl
  | other line form parts, h => by
    rw [evaluate]
    exact .error rfl

theorem isShown_evaluateAll : (ns : List Node) → (∀ n ∈ ns, n.HasShortIntegers) →
    IsShown (fun vs => Value.areWritable vs = true) (evaluateAll ns)
  | [], _ => by
    rw [evaluateAll]
    exact .ok rfl
  | n :: ns, h => by
    obtain ⟨hn, hns⟩ := List.forall_mem_cons.mp h
    rw [evaluateAll]
    refine (isShown_evaluate n hn).bind fun v hv => ?_
    refine (isShown_evaluateAll ns hns).bind fun vs hvs => .ok ?_
    rw [Value.areWritable, hv, hvs]
    rfl

theorem isShown_evaluateEntries : (entries : List (Option Node × Node)) →
    {before : List (Value × Value)} → Value.areEntriesWritable before = true →
    (∀ e ∈ entries, ∀ m ∈ e.1.toList ++ [e.2], m.HasShortIntegers) →
    IsShown (fun out => Value.areEntriesWritable out = true) (evaluateEntries before entries)
  | [], before, hbefore, _ => by
    rw [evaluateEntries]
    exact .ok hbefore
  | (none, value) :: rest, before, _, _ => by
    rw [evaluateEntries]
    exact .error rfl
  | (some key, value) :: rest, before, hbefore, h => by
    obtain ⟨hentry, hrest⟩ := List.forall_mem_cons.mp h
    rw [evaluateEntries]
    refine (isShown_evaluate key (hentry key (by simp))).bind fun k hk => ?_
    split
    · exact .error hk
    · refine (isShown_evaluate value (hentry value (by simp))).bind fun v hv => ?_
      exact isShown_evaluateEntries rest (Value.areEntriesWritable_put hbefore hk hv) hrest

end

end Writable

/-- The evaluation stops at a key that cannot be hashed, and that cannot be written
in the words that say so. -/
def StopsAtLongKey (n : Node) : Prop :=
  ∃ key line, n.evaluate = .error (.literal (.key key) line) ∧ ¬ key.isWritable = true

theorem HasShortIntegers.not_stopsAtLongKey (h : n.HasShortIntegers) : ¬ n.StopsAtLongKey := by
  rintro ⟨key, line, hkey, hlong⟩
  exact hlong ((isShown_evaluate n h).fault _ hkey)

end Node

section Search

/-- The expression for the joins of a text: in a well formed text the first one under
their name, in any other text the fragment that follows the name. -/
inductive IsJoinsNode (content : String) : Node → Prop where
  | tree {tree n : Node} : parseModule content = some tree → tree.joins? = some n →
      IsJoinsNode content n
  | fragment {text fragment : List Char} {n : Node} : parseModule content = none →
      findJoinsText false content.toList = some text → braced? text = some fragment →
      parseExpression (String.ofList fragment) = some n → IsJoinsNode content n

inductive HasNoJoins (content : String) : Prop where
  | tree {tree : Node} : parseModule content = some tree → tree.joins? = none →
      HasNoJoins content
  | fragment : parseModule content = none → findJoinsText false content.toList = none →
      HasNoJoins content

theorem extractJoins_of_null (h : '\x00' ∈ content.toList) :
    extractJoins content = .error .nullCharacter := by
  have hcheck : checkCharacters content = .error .nullCharacter :=
    if_pos (List.contains_iff_mem.mpr h)
  rw [extractJoins, hcheck]
  rfl

theorem extractJoins_of_not_null (h : '\x00' ∉ content.toList) : extractJoins content =
    match parseModule content with
    | some tree => Extraction.ofTree tree
    | none => Extraction.ofFragment content.toList := by
  have hcheck : checkCharacters content = .ok () := if_neg (mt List.contains_iff_mem.mp h)
  rw [extractJoins, hcheck]
  rfl

theorem IsJoinsNode.extractJoins_eq (hnode : IsJoinsNode content n)
    (h : '\x00' ∉ content.toList) : extractJoins content = Extraction.ofNode n := by
  rw [extractJoins_of_not_null h]
  cases hnode with
  | tree htree hjoins =>
    rw [htree]
    dsimp only
    rw [Extraction.ofTree, hjoins]
  | fragment htree htext hfragment hn =>
    rw [htree]
    dsimp only
    rw [Extraction.ofFragment, htext]
    dsimp only
    rw [hfragment]
    dsimp only
    rw [hn]

theorem HasNoJoins.extractJoins_eq (hnone : HasNoJoins content) (h : '\x00' ∉ content.toList) :
    extractJoins content = .ok .absent := by
  rw [extractJoins_of_not_null h]
  cases hnone with
  | tree htree hjoins =>
    rw [htree]
    dsimp only
    rw [Extraction.ofTree, hjoins]
  | fragment htree htext =>
    rw [htree]
    dsimp only
    rw [Extraction.ofFragment, htext]

theorem ofFragment_cases (htree : parseModule content = none) : HasNoJoins content ∨
    (∃ f, Extraction.ofFragment content.toList = .ok (.failed f)) ∨
      ∃ n, IsJoinsNode content n := by
  unfold Extraction.ofFragment
  split
  · rename_i htext
    exact .inl (.fragment htree htext)
  · rename_i text htext
    split
    · exact .inr (.inl ⟨.notClosed, rfl⟩)
    · rename_i fragment hfragment
      split
      · exact .inr (.inl ⟨.illFormed, rfl⟩)
      · rename_i n hn
        exact .inr (.inr ⟨n, .fragment htree htext hfragment hn⟩)

theorem extractJoins_cases (h : '\x00' ∉ content.toList) : HasNoJoins content ∨
    (∃ f, extractJoins content = .ok (.failed f)) ∨ ∃ n, IsJoinsNode content n := by
  rw [extractJoins_of_not_null h]
  cases htree : parseModule content with
  | some tree =>
    cases hjoins : tree.joins? with
    | none => exact .inl (.tree htree hjoins)
    | some n => exact .inr (.inr ⟨n, .tree htree hjoins⟩)
  | none => exact ofFragment_cases htree

end Search

section Outcome

theorem ofNode_of_map {joins : List (Value × Value)} (h : n.evaluate = .ok (.map joins)) :
    Extraction.ofNode n = .ok (.found joins) := by
  rw [Extraction.ofNode, h]
  rfl

theorem ofNode_of_not_map {v : Value} (h : n.evaluate = .ok v) (hv : ∀ joins, v ≠ .map joins) :
    Extraction.ofNode n = .ok (.failed (.notMapping v.shortKind)) := by
  rw [Extraction.ofNode, h]
  cases v with
  | map joins => exact absurd rfl (hv joins)
  | _ => rfl

theorem stopsAtLongKey_iff {f : LiteralFault} {line : Nat}
    (h : n.evaluate = .error (.literal f line)) :
    n.StopsAtLongKey ↔ ¬ (Fault.literal f line).shown?.all Value.isWritable = true := by
  constructor
  · rintro ⟨key, line', hkey, hlong⟩
    cases h.symm.trans hkey
    exact hlong
  · intro hlong
    cases f with
    | key key => exact ⟨key, line, h, hlong⟩
    | _ => exact absurd rfl hlong

theorem ofNode_of_error {f : LiteralFault} {line : Nat} (h : n.evaluate = .error (.literal f line))
    (hgoes : ¬ n.StopsAtLongKey) :
    Extraction.ofNode n = .ok (.failed (.notLiteral (.literal f line))) := by
  have hshown := not_not.mp (mt (stopsAtLongKey_iff h).mpr hgoes)
  rw [Extraction.ofNode, h, Except.mapError, Fault.told, if_pos hshown]

theorem ofNode_of_stopsAtLongKey (h : n.StopsAtLongKey) :
    Extraction.ofNode n = .error .integerUnwritable := by
  obtain ⟨key, line, hkey, hlong⟩ := h
  have hshown : ¬ (Fault.literal (.key key) line).shown?.all Value.isWritable = true := hlong
  rw [Extraction.ofNode, hkey, Except.mapError, Fault.told, if_neg hshown]

theorem ofNode_cases (h : ¬ n.StopsAtLongKey) :
    (∃ joins, Denotes n (.map joins) ∧ Extraction.ofNode n = .ok (.found joins)) ∨
      ∃ f, Extraction.ofNode n = .ok (.failed f) := by
  obtain ⟨v, hv⟩ | ⟨f, line, hf⟩ := Node.isSettled_evaluate n
  · by_cases hmap : ∃ joins, v = .map joins
    · obtain ⟨joins, rfl⟩ := hmap
      exact .inl ⟨joins, (Node.evaluate_eq_ok n).mp hv, ofNode_of_map hv⟩
    · exact .inr ⟨_, ofNode_of_not_map hv fun joins he => hmap ⟨joins, he⟩⟩
  · exact .inr ⟨_, ofNode_of_error hf h⟩

/-- Looking for joins has an outcome unless the text has a null character or stops
at a key that cannot be written. -/
theorem exists_extractJoins_iff : (∃ x, extractJoins content = .ok x) ↔
    '\x00' ∉ content.toList ∧ ∀ n, IsJoinsNode content n → ¬ n.StopsAtLongKey := by
  by_cases hnull : '\x00' ∈ content.toList
  · rw [extractJoins_of_null hnull]
    exact iff_of_false nofun fun h => h.1 hnull
  · rw [and_iff_right hnull]
    constructor
    · rintro ⟨x, hx⟩ n hn hstops
      rw [hn.extractJoins_eq hnull, ofNode_of_stopsAtLongKey hstops] at hx
      cases hx
    · intro h
      obtain hno | ⟨f, hf⟩ | ⟨n, hn⟩ := extractJoins_cases hnull
      · exact ⟨_, hno.extractJoins_eq hnull⟩
      · exact ⟨_, hf⟩
      · rw [hn.extractJoins_eq hnull]
        obtain ⟨joins, -, hx⟩ | ⟨f, hx⟩ := ofNode_cases (h n hn)
        · exact ⟨_, hx⟩
        · exact ⟨_, hx⟩

theorem extractJoins_eq_ok_cases (h : extractJoins content = .ok x) :
    (HasNoJoins content ∧ x = .absent) ∨ (∃ f, x = .failed f) ∨
      ∃ n joins, IsJoinsNode content n ∧ Denotes n (.map joins) ∧ x = .found joins := by
  obtain ⟨hnull, hgoes⟩ := exists_extractJoins_iff.mp ⟨x, h⟩
  obtain hno | ⟨f, hf⟩ | ⟨n, hn⟩ := extractJoins_cases hnull
  · exact .inl ⟨hno, Except.ok.inj (h.symm.trans (hno.extractJoins_eq hnull))⟩
  · exact .inr (.inl ⟨f, Except.ok.inj (h.symm.trans hf)⟩)
  · rw [hn.extractJoins_eq hnull] at h
    obtain ⟨joins, hjoins, hx⟩ | ⟨f, hx⟩ := ofNode_cases (hgoes n hn)
    · exact .inr (.inr ⟨n, joins, hn, hjoins, Except.ok.inj (h.symm.trans hx)⟩)
    · exact .inr (.inl ⟨f, Except.ok.inj (h.symm.trans hx)⟩)

/-- The fields of an outcome fit each other, and they say what the text holds. -/
structure IsConsistent (content : String) (x : Extraction) : Prop where
  /-- Without joins there is nothing else. -/
  absent : x.isFound = false → x.error? = none ∧ x.joins = []
  /-- Joins that cannot be used are found all the same. -/
  failed : ∀ message, x.error? = some message → x.isFound = true ∧ x.joins = []
  isFound_iff : x.isFound = false ↔ HasNoJoins content
  /-- Joins without an error are the mapping that the text denotes. -/
  found_iff : ∀ joins, x.isFound = true ∧ x.error? = none ∧ x.joins = joins ↔
    ∃ n, IsJoinsNode content n ∧ Denotes n (.map joins)

theorem Extraction.eq_absent_iff : x = .absent ↔ x.isFound = false := by
  cases x <;> simp [isFound]

theorem Extraction.eq_found_iff {joins : List (Value × Value)} :
    x = .found joins ↔ x.isFound = true ∧ x.error? = none ∧ x.joins = joins := by
  cases x <;> simp [isFound, error?, Extraction.joins]

theorem isConsistent_of_extractJoins (h : extractJoins content = .ok x) :
    IsConsistent content x := by
  obtain ⟨hnull, -⟩ := exists_extractJoins_iff.mp ⟨x, h⟩
  constructor
  · cases x <;> simp [Extraction.isFound, Extraction.error?, Extraction.joins]
  · cases x <;> simp [Extraction.isFound, Extraction.error?, Extraction.joins]
  · rw [← Extraction.eq_absent_iff]
    constructor
    · rintro rfl
      obtain ⟨hno, -⟩ | ⟨f, ⟨⟩⟩ | ⟨n, joins, -, -, ⟨⟩⟩ := extractJoins_eq_ok_cases h
      exact hno
    · exact fun hno => Except.ok.inj (h.symm.trans (hno.extractJoins_eq hnull))
  · intro joins
    rw [← Extraction.eq_found_iff]
    constructor
    · rintro rfl
      obtain ⟨-, ⟨⟩⟩ | ⟨f, ⟨⟩⟩ | ⟨n, _, hn, hjoins, ⟨⟩⟩ := extractJoins_eq_ok_cases h
      exact ⟨n, hn, hjoins⟩
    · rintro ⟨n, hn, hjoins⟩
      rw [hn.extractJoins_eq hnull, ofNode_of_map ((Node.evaluate_eq_ok n).mpr hjoins)] at h
      exact (Except.ok.inj h).symm

end Outcome

end SchemaJoins.Source
