import SchemaJoins.Proofs.Data.Keys
import SchemaJoins.Proofs.Source.Literal

/-! # Literals as they are written

A plain value has a tree: constants as they are, a negative number as a sign in front of its
opposite, and displays part by part. Evaluation leads back from the tree to the value. In a map
display equal keys may come again, and they are merged.
-/

namespace SchemaJoins

namespace Value

/-- Built from absent values, truth values, finite numbers and texts by lists, tuples and maps. -/
inductive IsPlain : Value → Prop where
  | null : IsPlain .null
  | bool (b : Bool) : IsPlain (.bool b)
  | int (n : Int) : IsPlain (.int n)
  | real (negative : Bool) (mantissa : Nat) (exponent : Int) :
      IsPlain (.real (.finite negative mantissa exponent))
  | text (s : String) : IsPlain (.text s)
  | list {items : List Value} : (∀ v ∈ items, IsPlain v) → IsPlain (.list items)
  | tuple {items : List Value} : (∀ v ∈ items, IsPlain v) → IsPlain (.tuple items)
  | map {entries : List (Value × Value)} : (∀ e ∈ entries, IsPlain e.1) →
      (∀ e ∈ entries, IsPlain e.2) → (∀ e ∈ entries, e.1.IsKey) → HasDistinctKeys entries →
      IsPlain (.map entries)

theorem IsPlainKey.isKey {v : Value} (h : v.IsPlainKey) : v.IsKey := by
  induction h with
  | tuple _ ih => exact isKey_tuple.mpr ih
  | _ =>
    refine (isKey_of_not_tuple ?_).mpr id
    nofun

end Value

namespace Source

open Value

mutual

inductive IsTreeOf : Node → Value → Prop where
  | null {line : Nat} : IsTreeOf (.constant line .null) .null
  | bool {line : Nat} {b : Bool} : IsTreeOf (.constant line (.bool b)) (.bool b)
  | int {line n : Nat} : IsTreeOf (.constant line (.int n)) (.int n)
  | negativeInt {line line' n : Nat} : 0 < n →
      IsTreeOf (.sign line true (.constant line' (.int n))) (.int (-n))
  | real {line mantissa : Nat} {exponent : Int} :
      IsTreeOf (.constant line (.real (.finite false mantissa exponent)))
        (.real (.finite false mantissa exponent))
  | negativeReal {line line' mantissa : Nat} {exponent : Int} :
      IsTreeOf (.sign line true (.constant line' (.real (.finite false mantissa exponent))))
        (.real (.finite true mantissa exponent))
  | text {line : Nat} {s : String} : IsTreeOf (.constant line (.text s)) (.text s)
  | list {line : Nat} {items : List Node} {values : List Value} :
      List.Forall₂ IsTreeOf items values → IsTreeOf (.list line items) (.list values)
  | tuple {line : Nat} {items : List Node} {values : List Value} :
      List.Forall₂ IsTreeOf items values → IsTreeOf (.tuple line items) (.tuple values)
  | map {line : Nat} {entries : List (Option Node × Node)} {pairs : List (Value × Value)} :
      List.Forall₂ IsTreeOfEntry entries pairs → IsTreeOf (.map line entries) (.map pairs)

inductive IsTreeOfEntry : Option Node × Node → Value × Value → Prop where
  | entry {key value : Node} {k v : Value} :
      IsTreeOf key k → IsTreeOf value v → IsTreeOfEntry (some key, value) (k, v)

end

theorem exists_isTreeOf {v : Value} (h : v.IsPlain) : ∃ tree, IsTreeOf tree v := by
  induction h with
  | null => exact ⟨.constant 1 .null, .null⟩
  | bool b => exact ⟨.constant 1 (.bool b), .bool⟩
  | int n =>
    obtain ⟨m, rfl | rfl⟩ := n.eq_nat_or_neg
    · exact ⟨.constant 1 (.int m), .int⟩
    · rcases m.eq_zero_or_pos with rfl | hm
      · exact ⟨.constant 1 (.int 0), .int⟩
      · exact ⟨.sign 1 true (.constant 1 (.int m)), .negativeInt hm⟩
  | real negative mantissa exponent =>
    cases negative with
    | false => exact ⟨.constant 1 (.real (.finite false mantissa exponent)), .real⟩
    | true =>
      exact ⟨.sign 1 true (.constant 1 (.real (.finite false mantissa exponent))), .negativeReal⟩
  | text s => exact ⟨.constant 1 (.text s), .text⟩
  | list _ ih =>
    obtain ⟨items, hitems⟩ := exists_forall₂ ih
    exact ⟨.list 1 items, .list hitems.flip⟩
  | tuple _ ih =>
    obtain ⟨items, hitems⟩ := exists_forall₂ ih
    exact ⟨.tuple 1 items, .tuple hitems.flip⟩
  | @map pairs _ _ _ _ ihkeys ihvalues =>
    have hpairs : ∀ e ∈ pairs, ∃ entry, IsTreeOfEntry entry e := by
      intro e he
      obtain ⟨key, hkey⟩ := ihkeys e he
      obtain ⟨value, hvalue⟩ := ihvalues e he
      exact ⟨(some key, value), .entry hkey hvalue⟩
    obtain ⟨entries, hentries⟩ := exists_forall₂ hpairs
    exact ⟨.map 1 entries, .map hentries.flip⟩

theorem denotes_of_isTreeOf {v : Value} (h : v.IsPlain) {tree : Node} (htree : IsTreeOf tree v) :
    Denotes tree v := by
  induction h generalizing tree with
  | null =>
    cases htree
    exact .null
  | bool =>
    cases htree
    exact .bool
  | int n =>
    cases htree with
    | int => exact .int
    | negativeInt => exact Denotes.int.signedInt
  | real negative mantissa exponent =>
    cases htree with
    | real => exact .real
    | negativeReal => exact Denotes.real.signedReal
  | text =>
    cases htree
    exact .text
  | list _ ih =>
    cases htree with
    | list hitems => exact .list (forall₂_imp_of_mem hitems fun _ v hv => ih v hv)
  | tuple _ ih =>
    cases htree with
    | tuple hitems => exact .tuple (forall₂_imp_of_mem hitems fun _ v hv => ih v hv)
  | @map pairs _ _ hkeys hdistinct ihkeys ihvalues =>
    cases htree with
    | @map line entries _ hentries =>
      have hdenotes : List.Forall₂ DenotesEntry entries pairs := by
        refine forall₂_imp_of_mem hentries fun _ e he hentry => ?_
        cases hentry with
        | entry hkey hvalue =>
          exact .entry (ihkeys _ he hkey) (hkeys _ he) (ihvalues _ he hvalue)
      exact ofPairs_eq_self hdistinct ▸ Denotes.map hdenotes

def IsEvaluated (entry : Option Node × Node) (pair : Value × Value) : Prop :=
  ∃ key, entry.1 = some key ∧ key.evaluate = .ok pair.1 ∧ entry.2.evaluate = .ok pair.2

theorem evaluate_map {line : Nat} {entries : List (Option Node × Node)}
    {pairs : List (Value × Value)} (h : List.Forall₂ IsEvaluated entries pairs)
    (hplain : HasPlainKeys pairs) :
    (Node.map line entries).evaluate = .ok (.map (ofPairs pairs)) := by
  refine (Node.evaluate_eq_ok _).mpr (.map (forall₂_imp_of_mem h ?_))
  rintro ⟨_, value⟩ pair hpair ⟨key, rfl, hkey, hvalue⟩
  exact .entry ((Node.evaluate_eq_ok _).mp hkey) (hplain _ hpair).isKey
    ((Node.evaluate_eq_ok _).mp hvalue)

/-- The tree of a plain value, which every such value has, gives that value. A map display whose
keys may equal one another gives the map in which each first key keeps its place and has the
value that is written last under a key equal to it. -/
theorem evaluate_written :
    (∀ v : Value, v.IsPlain →
      (∃ tree, IsTreeOf tree v) ∧ ∀ tree, IsTreeOf tree v → tree.evaluate = .ok v) ∧
    ∀ (line : Nat) (entries : List (Option Node × Node)) (pairs : List (Value × Value)),
      List.Forall₂ IsEvaluated entries pairs → HasPlainKeys pairs →
        ∃ out, (Node.map line entries).evaluate = .ok (.map out) ∧ HasDistinctKeys out ∧
          IsBuiltFrom pairs out := by
  refine ⟨fun v hv => ⟨exists_isTreeOf hv, fun tree htree => ?_⟩, ?_⟩
  · exact (Node.evaluate_eq_ok tree).mpr (denotes_of_isTreeOf hv htree)
  · intro line entries pairs hentries hplain
    exact ⟨ofPairs pairs, evaluate_map hentries hplain, isBuiltFrom_ofPairs hplain⟩

/-- A negative number and a negative zero in a map, and a display in which `1` comes back as a
truth value and as a double. -/
theorem evaluate_written_one :
    let minus (c : Constant) : Node := .sign 1 true (.constant 1 c)
    let tree : Node :=
      .map 1 [(some (.constant 1 (.text "a")), .tuple 1 [minus (.int 2),
        minus (.real (.finite false 0 0))])]
    let value : Value := .map [(.text "a", .tuple [.int (-2), .real (.finite true 0 0)])]
    let one : Binary64 := .ofDecimal false 1 0
    let entries : List (Option Node × Node) :=
      [(some (.constant 1 (.int 1)), .constant 1 (.text "first")),
        (some (.constant 2 .null), .constant 2 (.bool false)),
        (some (.constant 3 (.bool true)), .constant 3 (.text "second")),
        (some (.constant 4 (.real one)), .constant 4 (.text "last"))]
    let pairs : List (Value × Value) :=
      [(.int 1, .text "first"), (.null, .bool false), (.bool true, .text "second"),
        (.real one, .text "last")]
    (value.IsPlain ∧ IsTreeOf tree value ∧ tree.evaluate = .ok value) ∧
      HasPlainKeys pairs ∧
      (∃ out, (Node.map 1 entries).evaluate = .ok (.map out) ∧ HasDistinctKeys out ∧
        IsBuiltFrom pairs out) ∧
      (Node.map 1 entries).evaluate =
        .ok (.map [(.int 1, .text "last"), (.null, .bool false)]) := by
  intro minus tree value one entries pairs
  obtain ⟨hplain, hmerged⟩ := evaluate_written
  have hvalue : value.IsPlain := by
    refine .map ?_ ?_ ?_ (List.pairwise_singleton ..)
    · exact List.forall_mem_singleton.mpr (.text "a")
    · have hitems : ∀ v ∈ [.int (-2), .real (.finite true 0 0)], IsPlain v :=
        List.forall_mem_cons.mpr ⟨.int (-2), List.forall_mem_singleton.mpr (.real true 0 0)⟩
      exact List.forall_mem_singleton.mpr (.tuple hitems)
    · exact List.forall_mem_singleton.mpr (IsPlainKey.text "a").isKey
  have htree : IsTreeOf tree value := by
    refine .map (.cons (.entry .text (.tuple ?_)) .nil)
    exact .cons (.negativeInt Nat.two_pos) (.cons .negativeReal .nil)
  have hentries : List.Forall₂ IsEvaluated entries pairs := by
    refine .cons ?_ (.cons ?_ (.cons ?_ (.cons ?_ .nil)))
    all_goals exact ⟨_, rfl, rfl, rfl⟩
  have hkeys : HasPlainKeys pairs := by
    simp only [HasPlainKeys, pairs, List.forall_mem_cons]
    exact ⟨.int 1, .null, .bool true, .real (Binary64.isProper_ofDecimal ..), nofun⟩
  exact ⟨⟨hvalue, htree, (hplain value hvalue).2 tree htree⟩, hkeys,
    hmerged 1 entries pairs hentries hkeys, by rfl⟩

end Source

end SchemaJoins
