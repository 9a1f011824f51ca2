import Mathlib.Data.List.Forall2
import SchemaJoins.Proofs.Reference.Span
import SchemaJoins.Reference.Parse

/-! # Parameters of references

A parameter is read unless it is blank or quotes its own quote character. Only an
integer of too many digits is a fault.
-/

namespace SchemaJoins.Reference

/-- The token is wrapped in a quote character that it also contains in between. -/
def QuotesItself (token : List Char) : Prop :=
  ∃ q content, isQuote q ∧ token = q :: (content ++ [q]) ∧ q ∈ content

/-- Digits with or without a minus sign, more of them than are turned into an integer. -/
def IsLongInteger (token : List Char) : Prop :=
  ∃ digits, (token = digits ∨ token = '-' :: digits) ∧ (∀ c ∈ digits, Text.isDigit c) ∧
    Text.digitLimit < digits.length

def IsParameter (token : List Char) : Prop := token ≠ [] ∧ ¬ QuotesItself token

theorem not_isLongInteger_of_length {token : List Char} (h : token.length ≤ Text.digitLimit) :
    ¬ IsLongInteger token := by
  rintro ⟨digits, rfl | rfl, -, hl⟩
  · omega
  · rw [List.length_cons] at h
    omega

theorem quotedContent?_eq_some {token content : List Char} {q : Char} :
    quotedContent? token = some (q, content) ↔ isQuote q ∧ token = q :: (content ++ [q]) := by
  cases token with
  | nil => simp [quotedContent?]
  | cons c rest =>
    simp only [quotedContent?, Option.ite_none_right_eq_some, Bool.and_eq_true, beq_iff_eq,
      Option.some.injEq, Prod.mk.injEq, List.cons.injEq]
    constructor
    · rintro ⟨⟨hq, hl⟩, rfl, rfl⟩
      exact ⟨hq, rfl, (List.dropLast_append_getLast? c hl).symm⟩
    · rintro ⟨hq, rfl, rfl⟩
      exact ⟨⟨hq, by simp⟩, rfl, by simp⟩

theorem wholeNumber?_eq_some {token digits : List Char} {negative : Bool}
    (h : wholeNumber? token = some (negative, digits)) :
    (token = digits ∨ token = '-' :: digits) ∧ ∀ c ∈ digits, Text.isDigit c := by
  unfold wholeNumber? at h
  split at h
  rename_i n ds hm
  split at h
  · cases h
  · rename_i hd
    cases h
    rw [Bool.or_eq_true, not_or] at hd
    refine ⟨?_, List.all_eq_true.mp (by simpa using hd.2)⟩
    split at hm
    · cases hm
      exact Or.inr rfl
    · cases hm
      exact Or.inl rfl

theorem wholeNumber?_of_digits {digits : List Char} (hne : digits ≠ [])
    (h : ∀ c ∈ digits, Text.isDigit c = true) :
    wholeNumber? digits = some (false, digits) ∧
      wholeNumber? ('-' :: digits) = some (true, digits) := by
  have hall : digits.all Text.isDigit = true := List.all_eq_true.mpr h
  constructor
  · unfold wholeNumber?
    split
    rename_i negative rest hm
    split at hm
    · exact absurd (h '-' List.mem_cons_self) (by decide)
    · cases hm
      simp [hall, hne]
  · simp [wholeNumber?, hall, hne]

theorem readWord_of_wholeNumber {token digits : List Char} {negative : Bool}
    (h : wholeNumber? token = some (negative, digits)) :
    readWord token = readInteger negative digits := by
  have hne (keyword : List Char) (hk : wholeNumber? keyword = none) : token ≠ keyword := by
    rintro rfl
    rw [hk] at h
    cases h
  have htrue := hne "true".toList (by decide)
  have hfalse := hne "false".toList (by decide)
  have hnil := hne "nil".toList (by decide)
  have hnull := hne "null".toList (by decide)
  simp only [readWord, htrue, hfalse, hnil, hnull, if_false, or_self, h]

theorem isLongInteger_of_readWord {token : List Char} {f : Fault}
    (h : readWord token = .error f) : IsLongInteger token := by
  unfold readWord at h
  split at h
  · cases h
  split at h
  · cases h
  split at h
  · cases h
  split at h
  · rename_i negative digits hw
    obtain ⟨ht, hd⟩ := wholeNumber?_eq_some hw
    unfold readInteger at h
    split at h
    · exact ⟨digits, ht, hd, ‹_›⟩
    · cases h
  · split at h <;> cases h

variable {raw : List Char}

theorem parseParameter_of_quoted {q : Char} {content : List Char}
    (h : quotedContent? (Text.trim raw) = some (q, content)) :
    parseParameter raw = if q ∈ content
      then .ok (.error (.embeddedQuote (String.ofList (Text.trim raw))))
      else .ok (.ok (.text (String.ofList content))) := by
  have hne : (Text.trim raw).isEmpty = false := by
    rw [(quotedContent?_eq_some.mp h).2]
    rfl
  simp [parseParameter, hne, h]

theorem parseParameter_of_word (hne : Text.trim raw ≠ [])
    (h : quotedContent? (Text.trim raw) = none) :
    parseParameter raw = (readWord (Text.trim raw)).map .ok := by
  simp [parseParameter, hne, h]

theorem parseParameter_of_blank (h : Text.trim raw = []) :
    parseParameter raw = .ok (.error (.emptyParameter (String.ofList raw))) := by
  simp [parseParameter, h]

theorem parseParameter_trim {v : Value} :
    parseParameter (Text.trim raw) = .ok (.ok v) ↔ parseParameter raw = .ok (.ok v) := by
  by_cases hne : Text.trim raw = []
  · rw [parseParameter_of_blank hne, parseParameter_of_blank (by simpa using hne)]
    simp
  · simp only [parseParameter, Text.trim_trim]
    simp [hne]

theorem isLongInteger_of_parseParameter {f : Fault} (h : parseParameter raw = .error f) :
    IsLongInteger (Text.trim raw) := by
  by_cases hne : Text.trim raw = []
  · rw [parseParameter_of_blank hne] at h
    cases h
  cases hq : quotedContent? (Text.trim raw) with
  | some parts =>
    rw [parseParameter_of_quoted hq] at h
    split at h <;> cases h
  | none =>
    rw [parseParameter_of_word hne hq] at h
    cases hw : readWord (Text.trim raw) with
    | error e => exact isLongInteger_of_readWord hw
    | ok v =>
      rw [hw] at h
      cases h

theorem quotesItself_iff {q : Char} {content : List Char}
    (h : quotedContent? (Text.trim raw) = some (q, content)) :
    QuotesItself (Text.trim raw) ↔ q ∈ content := by
  obtain ⟨hquote, ht⟩ := quotedContent?_eq_some.mp h
  constructor
  · rintro ⟨q', content', hquote', ht', hm⟩
    have he := quotedContent?_eq_some.mpr ⟨hquote', ht'⟩
    rw [h] at he
    cases he
    exact hm
  · exact fun hm => ⟨q, content, hquote, ht, hm⟩

theorem not_quotesItself_of_word (h : quotedContent? (Text.trim raw) = none) :
    ¬ QuotesItself (Text.trim raw) := by
  rintro ⟨q, content, hquote, ht, -⟩
  rw [quotedContent?_eq_some.mpr ⟨hquote, ht⟩] at h
  cases h

theorem isParameter_of_parseParameter {v : Value} (h : parseParameter raw = .ok (.ok v)) :
    IsParameter (Text.trim raw) := by
  by_cases hne : Text.trim raw = []
  · rw [parseParameter_of_blank hne] at h
    cases h
  cases hq : quotedContent? (Text.trim raw) with
  | some parts =>
    obtain ⟨q, content⟩ := parts
    rw [parseParameter_of_quoted hq] at h
    split at h
    · cases h
    · exact ⟨hne, mt (quotesItself_iff hq).mp ‹_›⟩
  | none => exact ⟨hne, not_quotesItself_of_word hq⟩

theorem exists_parseParameter (h : IsParameter (Text.trim raw))
    (hl : ¬ IsLongInteger (Text.trim raw)) : ∃ v, parseParameter raw = .ok (.ok v) := by
  cases hq : quotedContent? (Text.trim raw) with
  | some parts =>
    obtain ⟨q, content⟩ := parts
    rw [parseParameter_of_quoted hq, if_neg (mt (quotesItself_iff hq).mpr h.2)]
    exact ⟨_, rfl⟩
  | none =>
    rw [parseParameter_of_word h.1 hq]
    cases hw : readWord (Text.trim raw) with
    | error e => exact absurd (isLongInteger_of_readWord hw) hl
    | ok v => exact ⟨v, rfl⟩

/-- Parameters are read one by one, up to the first that is a fault or no parameter. -/
theorem parseParameters_cons (raw : List Char) (rest : List (List Char)) :
    parseParameters (raw :: rest) =
      match parseParameter raw with
      | .error f => .error f
      | .ok (.error e) => .ok (.error e)
      | .ok (.ok v) => (parseParameters rest).map (·.map (v :: ·)) := by
  rw [parseParameters]
  rcases parseParameter raw with f | e | v
  · rfl
  · rfl
  · change (parseParameters rest).bind _ = _
    cases parseParameters rest <;> rfl

theorem parseParameters_eq_ok {raws : List (List Char)} {vs : List Value} :
    parseParameters raws = .ok (.ok vs) ↔
      List.Forall₂ (fun raw v => parseParameter raw = .ok (.ok v)) raws vs := by
  induction raws generalizing vs with
  | nil =>
    constructor
    · intro h
      cases h
      exact .nil
    · rintro ⟨⟩
      rfl
  | cons raw raws ih =>
    rw [parseParameters_cons]
    constructor
    · intro h
      split at h
      · cases h
      · cases h
      · rename_i v hv
        cases hp : parseParameters raws with
        | error e =>
          rw [hp] at h
          cases h
        | ok o =>
          rw [hp] at h
          cases o with
          | error e => cases h
          | ok ws =>
            cases h
            exact .cons hv (ih.mp hp)
    · rintro (_ | ⟨hv, hvs⟩)
      rw [hv, ih.mpr hvs]
      rfl

theorem isParameter_of_forall₂ {raws : List (List Char)} {vs : List Value}
    (h : List.Forall₂ (fun raw v => parseParameter raw = .ok (.ok v)) raws vs) :
    ∀ raw ∈ raws, IsParameter (Text.trim raw) := by
  induction h with
  | nil => exact fun _ h => absurd h List.not_mem_nil
  | cons hv _ ih => exact List.forall_mem_cons.mpr ⟨isParameter_of_parseParameter hv, ih⟩

theorem parseParameters_eq_error {raws : List (List Char)} {f : Fault}
    (h : parseParameters raws = .error f) : ∃ raw ∈ raws, parseParameter raw = .error f := by
  induction raws with
  | nil => cases h
  | cons raw raws ih =>
    rw [parseParameters_cons] at h
    split at h
    · rename_i hr
      cases h
      exact ⟨raw, List.mem_cons_self, hr⟩
    · cases h
    · cases hp : parseParameters raws with
      | error e =>
        rw [hp] at h
        cases h
        obtain ⟨raw', hm, hr⟩ := ih hp
        exact ⟨raw', List.mem_cons_of_mem _ hm, hr⟩
      | ok o =>
        rw [hp] at h
        cases h

theorem exists_parseParameters {raws : List (List Char)}
    (h : ∀ raw ∈ raws, ∃ v, parseParameter raw = .ok (.ok v)) :
    ∃ vs, parseParameters raws = .ok (.ok vs) := by
  induction raws with
  | nil => exact ⟨[], rfl⟩
  | cons raw raws ih =>
    obtain ⟨⟨v, hv⟩, hraws⟩ := List.forall_mem_cons.mp h
    obtain ⟨vs, hvs⟩ := ih hraws
    refine ⟨v :: vs, ?_⟩
    rw [parseParameters_cons, hv, hvs]
    rfl

end SchemaJoins.Reference
