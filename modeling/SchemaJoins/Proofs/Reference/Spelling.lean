import Mathlib.Data.List.Basic
import SchemaJoins.Proofs.Data.Steps
import SchemaJoins.Proofs.Reference.Grammar

/-! # Writing references

A reference is written as its join, its parameters with a colon in front of each,
a dot and its field. Texts are put between quotes that they do not contain, so
that nothing in them separates or is trimmed, and what is written reads back.
-/

namespace SchemaJoins

namespace Text

theorem isDigit_of_mem_toDigits {n : Nat} {c : Char} (h : c ∈ Nat.toDigits 10 n) :
    c.isDigit = true :=
  Nat.isDigit_of_mem_toDigits (by decide) (by decide) h

theorem digitsValue_toDigits (n : Nat) : digitsValue (Nat.toDigits 10 n) = n := by
  rw [digitsValue_eq_ofDigitChars fun _ => isDigit_of_mem_toDigits,
    Nat.ofDigitChars_toDigits (by decide) (by decide)]

end Text

namespace Reference

/-- A value and a token that writes it. A text stands between quotes of a kind
that it does not contain. -/
inductive Spells : Value → List Char → Prop where
  | null : Spells .null "nil".toList
  | bool (b : Bool) : Spells (.bool b) (if b then "true" else "false").toList
  | int (n : Int) : Spells (.int n) (toString n).toList
  | text (s : String) (q : Char) : isQuote q = true → q ∉ s.toList →
      Spells (.text s) (q :: (s.toList ++ [q]))

/-- A value that can be written: a text lacks one kind of quotes, and an integer
has no more digits than are read. -/
def IsWritable : Value → Prop
  | .null => True
  | .bool _ => True
  | .int n => (toString n.natAbs).length ≤ Text.digitLimit
  | .text s => '\'' ∉ s.toList ∨ '"' ∉ s.toList
  | _ => False

def written (join : String) (tokens : List (List Char)) (field : String) : String :=
  String.ofList (join.toList ++ tokens.flatMap (':' :: ·) ++ '.' :: field.toList)

variable {v : Value} {token : List Char}

theorem exists_spells (h : IsWritable v) : ∃ token, Spells v token := by
  cases v with
  | null => exact ⟨_, .null⟩
  | bool b => exact ⟨_, .bool b⟩
  | int n => exact ⟨_, .int n⟩
  | text s =>
    rcases h with h | h
    · exact ⟨_, .text s '\'' rfl h⟩
    · exact ⟨_, .text s '"' rfl h⟩
  | _ => exact h.elim

theorem exists_forall₂_spells {values : List Value} (h : ∀ v ∈ values, IsWritable v) :
    ∃ tokens, List.Forall₂ Spells values tokens :=
  exists_forall₂ fun v hv => exists_spells (h v hv)

section Word

/-- No character of the token opens a span, separates or is trimmed. -/
def IsWord (token : List Char) : Prop :=
  token ≠ [] ∧ ∀ c ∈ token, isQuote c = false ∧ Text.isBlank c = false ∧ c ≠ ':'

theorem toNat_of_isIdentifierRest {c : Char} (h : Text.isIdentifierRest c = true) :
    48 ≤ c.toNat ∧ c.toNat ≤ 122 := by
  obtain h | h := Bool.or_eq_true_iff.mp h
  · obtain hletter | hdigit := Bool.or_eq_true_iff.mp h
    · obtain hupper | hlower := Bool.or_eq_true_iff.mp hletter
      · have hrange := of_decide_eq_true hupper
        exact ⟨Nat.le_trans (by decide) hrange.1, Nat.le_trans hrange.2 (by decide)⟩
      · have hrange := Bool.and_eq_true_iff.mp hlower
        exact ⟨Nat.le_trans (by decide) (of_decide_eq_true hrange.1),
          Nat.le_trans (of_decide_eq_true hrange.2) (by decide)⟩
    · have hrange := Text.toNat_of_isDigit hdigit
      omega
  · rw [beq_iff_eq.mp h]
    decide

theorem isBlank_of_isIdentifierRest {c : Char} (h : Text.isIdentifierRest c = true) :
    Text.isBlank c = false := by
  obtain ⟨hlow, hhigh⟩ := toNat_of_isIdentifierRest h
  exact Text.isBlank_of_toNat hlow hhigh

theorem isWord_of_identifierRest (hne : token ≠ [])
    (h : ∀ c ∈ token, Text.isIdentifierRest c = true) : IsWord token := by
  refine ⟨hne, fun c hc => ⟨?_, isBlank_of_isIdentifierRest (h c hc), ?_⟩⟩
  · rw [Bool.eq_false_iff]
    intro hq
    obtain rfl | rfl := isQuote_iff.mp hq
    · exact absurd (h _ hc) (by decide)
    · exact absurd (h _ hc) (by decide)
  · rintro rfl
    exact absurd (h _ hc) (by decide)

theorem isWord_identifier (h : Text.isIdentifierWord token = true) : IsWord token := by
  refine isWord_of_identifierRest ?_ fun _ hc => Text.isIdentifierRest_of_mem h hc
  rintro rfl
  cases h

theorem isWord_digits (n : Nat) : IsWord (Nat.toDigits 10 n) := by
  refine isWord_of_identifierRest Nat.toDigits_ne_nil fun c hc => ?_
  simp [Text.isIdentifierRest, Char.isAlphanum, Text.isDigit_of_mem_toDigits hc]

theorem toList_toString_int (n : Int) : (toString n).toList =
    if n < 0 then '-' :: Nat.toDigits 10 n.natAbs else Nat.toDigits 10 n.natAbs := by
  cases n with
  | ofNat m => simp [toString, Int.repr]
  | negSucc m => simp [toString, Int.repr, String.toList_append, Int.negSucc_lt_zero]

theorem isWord_int (n : Int) : IsWord (toString n).toList := by
  rw [toList_toString_int]
  split
  · refine ⟨List.cons_ne_nil _ _, List.forall_mem_cons.mpr ⟨by decide, ?_⟩⟩
    exact (isWord_digits _).2
  · exact isWord_digits _

theorem IsWord.isBalanced (h : IsWord token) : IsBalanced token :=
  spanAfterAll_of_not_quote fun c hc => (h.2 c hc).1

theorem IsWord.not_hasBare (h : IsWord token) : ¬ HasBare ':' none token :=
  Reference.not_hasBare fun hm => (h.2 _ hm).2.2 rfl

theorem IsWord.trim (h : IsWord token) : Text.trim token = token :=
  Text.trim_eq_self (fun _ hc => (h.2 _ (List.mem_of_head? hc)).2.1)
    fun _ hc => (h.2 _ (List.mem_of_getLast? hc)).2.1

theorem IsWord.quotedContent? (h : IsWord token) : quotedContent? token = none := by
  cases hq : Reference.quotedContent? token with
  | none => rfl
  | some parts =>
    obtain ⟨q, content⟩ := parts
    obtain ⟨hquote, rfl⟩ := quotedContent?_eq_some.mp hq
    rw [(h.2 q List.mem_cons_self).1] at hquote
    cases hquote

theorem IsWord.parseParameter (h : IsWord token) :
    parseParameter token = (readWord token).map .ok := by
  have hp := @parseParameter_of_word token (by rw [h.trim]; exact h.1)
    (by rw [h.trim]; exact h.quotedContent?)
  rwa [h.trim] at hp

theorem wholeNumber?_digits (n : Nat) :
    wholeNumber? (Nat.toDigits 10 n) = some (false, Nat.toDigits 10 n) ∧
      wholeNumber? ('-' :: Nat.toDigits 10 n) = some (true, Nat.toDigits 10 n) :=
  wholeNumber?_of_digits Nat.toDigits_ne_nil fun _ hc =>
    Text.isDigit_of_isDigit (Text.isDigit_of_mem_toDigits hc)

theorem readWord_int {n : Int} (h : IsWritable (.int n)) :
    readWord (toString n).toList = .ok (.int n) := by
  have hlength : (Nat.toDigits 10 n.natAbs).length ≤ Text.digitLimit := by
    rw [← Nat.toList_repr, String.length_toList]
    exact h
  have hread (negative : Bool) : readInteger negative (Nat.toDigits 10 n.natAbs) =
      .ok (.int (if negative then -(n.natAbs : Int) else n.natAbs)) := by
    rw [readInteger, if_neg (by omega), Text.digitsValue_toDigits]
  rw [toList_toString_int]
  split
  · have hn : -(n.natAbs : Int) = n := by omega
    rw [readWord_of_wholeNumber (wholeNumber?_digits _).2, hread, if_pos rfl, hn]
  · have hn : (n.natAbs : Int) = n := by omega
    rw [readWord_of_wholeNumber (wholeNumber?_digits _).1, hread, if_neg Bool.false_ne_true, hn]

end Word

section Quoted

variable {s : List Char} {q : Char}

theorem not_hasBare_of_span {sep : Char} (h : q ∉ s) : ¬ HasBare sep (some q) s := by
  rintro ⟨before, after, rfl, hs⟩
  have hb : q ∉ before := fun hm => h (List.mem_append_left _ hm)
  rw [spanAfterAll_of_not_mem hb] at hs
  cases hs

theorem isBalanced_quoted (hq : isQuote q = true) (h : q ∉ s) :
    IsBalanced (q :: (s ++ [q])) := by
  simp [IsBalanced, spanAfter, hq, spanAfterAll_of_not_mem h]

theorem not_hasBare_quoted (hq : isQuote q = true) (h : q ∉ s) :
    ¬ HasBare ':' none (q :: (s ++ [q])) := by
  have hcolon : q ≠ ':' := by
    rintro rfl
    cases hq
  have hopen : spanAfter none q = some q := by simp [spanAfter, hq]
  rw [hasBare_cons, hopen, hasBare_append, spanAfterAll_of_not_mem h, hasBare_cons]
  simp [hcolon, not_hasBare_of_span h, hasBare_nil]

theorem parseParameter_quoted (hq : isQuote q = true) (h : q ∉ s) :
    parseParameter (q :: (s ++ [q])) = .ok (.ok (.text (String.ofList s))) := by
  have hblank : Text.isBlank q = false := by
    by_contra hb
    rw [isQuote_of_isBlank (by simpa using hb)] at hq
    cases hq
  have htrim : Text.trim (q :: (s ++ [q])) = q :: (s ++ [q]) := by
    refine Text.trim_eq_self (fun c hc => ?_) fun c hc => ?_
    · cases hc
      exact hblank
    · rw [← List.cons_append, List.getLast?_concat] at hc
      cases hc
      exact hblank
  have hcontent : quotedContent? (Text.trim (q :: (s ++ [q]))) = some (q, s) := by
    rw [htrim]
    exact quotedContent?_eq_some.mpr ⟨hq, rfl⟩
  rw [parseParameter_of_quoted hcontent, if_neg h]

end Quoted

/-- A token is balanced, hides its colons and reads as the value that it writes. -/
theorem Spells.reads (h : Spells v token) (hv : IsWritable v) :
    IsBalanced token ∧ ¬ HasBare ':' none token ∧ parseParameter token = .ok (.ok v) := by
  cases h with
  | null =>
    have hw : IsWord "nil".toList := isWord_identifier (by decide)
    exact ⟨hw.isBalanced, hw.not_hasBare, hw.parseParameter⟩
  | bool b =>
    have hw : IsWord (if b then "true" else "false").toList :=
      isWord_identifier (by cases b <;> decide)
    refine ⟨hw.isBalanced, hw.not_hasBare, ?_⟩
    cases b <;> exact hw.parseParameter
  | int n =>
    have hw := isWord_int n
    refine ⟨hw.isBalanced, hw.not_hasBare, ?_⟩
    rw [hw.parseParameter, readWord_int hv]
    rfl
  | text s q hq hs =>
    refine ⟨isBalanced_quoted hq hs, not_hasBare_quoted hq hs, ?_⟩
    rw [parseParameter_quoted hq hs, String.ofList_toList]

theorem forall₂_reads {values : List Value} {tokens : List (List Char)}
    (h : List.Forall₂ Spells values tokens) (hv : ∀ v ∈ values, IsWritable v) :
    (∀ t ∈ tokens, IsBalanced t ∧ ¬ HasBare ':' none t) ∧
      List.Forall₂ (fun t v => parseParameter t = .ok (.ok v)) tokens values := by
  induction h with
  | nil => exact ⟨fun _ ht => absurd ht List.not_mem_nil, .nil⟩
  | cons h _ ih =>
    obtain ⟨hv, hvs⟩ := List.forall_mem_cons.mp hv
    obtain ⟨hbalanced, hcolon, hread⟩ := h.reads hv
    obtain ⟨htokens, hreads⟩ := ih hvs
    exact ⟨List.forall_mem_cons.mpr ⟨⟨hbalanced, hcolon⟩, htokens⟩, .cons hread hreads⟩

theorem intercalate_colon (join : List Char) (tokens : List (List Char)) :
    [':'].intercalate (join :: tokens) = join ++ tokens.flatMap (':' :: ·) := by
  induction tokens generalizing join with
  | nil => simp
  | cons t tokens ih =>
    have hi : [':'].intercalate (join :: t :: tokens) =
        join ++ ':' :: [':'].intercalate (t :: tokens) := by simp [List.intercalate]
    rw [hi, ih, List.flatMap_cons, List.cons_append]

theorem hasPieces_written {join field : String} {tokens : List (List Char)}
    (hj : Text.isIdentifierWord join.toList = true)
    (ht : ∀ t ∈ tokens, IsBalanced t ∧ ¬ HasBare ':' none t) :
    HasPieces (written join tokens field).toList join.toList tokens field.toList := by
  refine ⟨?_, ?_, ?_⟩
  · rw [written, String.toList_ofList, intercalate_colon]
  · exact List.forall_mem_cons.mpr ⟨(isWord_identifier hj).isBalanced, fun t h => (ht t h).1⟩
  · exact List.forall_mem_cons.mpr ⟨(isWord_identifier hj).not_hasBare, fun t h => (ht t h).2⟩

/-- Every writable value has a token, and a reference that is written with such
tokens reads back as itself. -/
theorem parse_written (join field : String) (values : List Value)
    (hj : Text.isIdentifierWord join.toList = true)
    (hf : Text.isIdentifierWord field.toList = true) (hv : ∀ v ∈ values, IsWritable v) :
    (∃ tokens, List.Forall₂ Spells values tokens) ∧
    ∀ tokens, List.Forall₂ Spells values tokens →
      parse (written join tokens field) = .ok (.ok { join, field, parameters := values }) := by
  refine ⟨exists_forall₂_spells hv, fun tokens htokens => ?_⟩
  obtain ⟨hspans, hreads⟩ := forall₂_reads htokens hv
  have hjoin := (isWord_identifier hj).trim
  have hfield := (isWord_identifier hf).trim
  have hvalues : parseParameters (tokens.map Text.trim) = .ok (.ok values) :=
    parseParameters_eq_ok.mpr (forall₂_map_trim.mpr hreads)
  rw [parse, parseChars_of_names (hasPieces_written hj hspans) (by rwa [hjoin])
    (by rwa [hfield]), hvalues, hjoin, hfield, String.ofList_toList, String.ofList_toList]
  rfl

example : written "files" ["'nil: a.b'".toList, "-12".toList] "size" =
    "files:'nil: a.b':-12.size" := by decide

/-- Separators, a quote of the other kind and blanks within a text, and a number. -/
theorem parse_written_files :
    let values : List Value := [.text " it's 1.5: nil ", .int (-12), .null, .text ""]
    Text.isIdentifierWord "files".toList = true ∧
    Text.isIdentifierWord "size".toList = true ∧
    (∀ v ∈ values, IsWritable v) ∧
    (∃ tokens, List.Forall₂ Spells values tokens) ∧
    ∀ tokens, List.Forall₂ Spells values tokens →
      parse (written "files" tokens "size") =
        .ok (.ok { join := "files", field := "size", parameters := values }) := by
  intro values
  have hv : ∀ v ∈ values, IsWritable v := by
    refine List.forall_mem_cons.mpr ⟨Or.inr (by decide), List.forall_mem_cons.mpr ⟨?_, ?_⟩⟩
    · have h : (toString (-12 : Int).natAbs).length ≤ Text.digitLimit := by decide
      exact h
    · exact List.forall_mem_cons.mpr ⟨trivial, List.forall_mem_singleton.mpr (Or.inl (by decide))⟩
  exact ⟨by decide, by decide, hv, parse_written "files" "size" values (by decide) (by decide) hv⟩

end Reference

end SchemaJoins
