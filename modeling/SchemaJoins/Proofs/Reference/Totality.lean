import SchemaJoins.Proofs.Data.Faults
import SchemaJoins.Proofs.Reference.Spelling

/-! # Texts that stop the parser

Every text is read as a reference or rejected with a failure, with one exception:
where the names are identifiers and the parameters are read up to an integer of too
many digits, the parser stops with a fault.
-/

namespace SchemaJoins.Reference

variable {s : String} {text raw : List Char} {raws : List (List Char)} {f : Fault}
  {P : Fault → Prop}

/-- The text has the pieces of a reference with identifiers for its names, and the
first parameter that is not read is an integer of too many digits. -/
def StopsAtLongInteger (text : List Char) : Prop :=
  ∃ join before p after field, HasPieces text join (before ++ p :: after) field ∧
    Text.isIdentifierWord (Text.trim join) = true ∧
    Text.isIdentifierWord (Text.trim field) = true ∧
    (∀ q ∈ before, IsParameter (Text.trim q)) ∧ IsLongInteger (Text.trim p)

def IsTooLong (f : Fault) : Prop := ∃ n, Text.digitLimit < n ∧ f = .integerTooLong n

section Parameters

theorem readWord_of_isLongInteger {token : List Char} (h : IsLongInteger token) :
    ∃ f, readWord token = .error f ∧ IsTooLong f := by
  obtain ⟨digits, htoken, hdigit, hlong⟩ := h
  have hne : digits ≠ [] := by
    rintro rfl
    exact Nat.not_lt_zero _ hlong
  have hread (negative : Bool) :
      readInteger negative digits = .error (.integerTooLong digits.length) := if_pos hlong
  obtain ⟨hplain, hminus⟩ := wholeNumber?_of_digits hne hdigit
  refine ⟨.integerTooLong digits.length, ?_, digits.length, hlong, rfl⟩
  obtain rfl | rfl := htoken
  · rw [readWord_of_wholeNumber hplain, hread]
  · rw [readWord_of_wholeNumber hminus, hread]

theorem quotedContent?_of_isLongInteger {token : List Char} (h : IsLongInteger token) :
    quotedContent? token = none := by
  cases hq : quotedContent? token with
  | none => rfl
  | some parts =>
    obtain ⟨q, content⟩ := parts
    obtain ⟨hquote, rfl⟩ := quotedContent?_eq_some.mp hq
    have hnumber : q = '-' ∨ Text.isDigit q = true := by
      obtain ⟨digits, rfl | htoken, hdigit, -⟩ := h
      · exact .inr (hdigit q List.mem_cons_self)
      · exact .inl (List.cons.inj htoken).1
    obtain rfl | rfl := isQuote_iff.mp hquote
    · exact absurd hnumber (by decide)
    · exact absurd hnumber (by decide)

theorem stopsWith_parseParameter :
    StopsWith IsTooLong (parseParameter raw) ↔ IsLongInteger (Text.trim raw) := by
  constructor
  · rintro ⟨f, hf, -⟩
    exact isLongInteger_of_parseParameter hf
  · intro h
    have hne : Text.trim raw ≠ [] := by
      intro hempty
      obtain ⟨digits, htoken, -, hlong⟩ := h
      have hlength : (Text.trim raw).length = 0 := by rw [hempty, List.length_nil]
      obtain rfl | htoken := htoken
      · omega
      · rw [htoken] at hempty
        cases hempty
    obtain ⟨f, hf, hlong⟩ := readWord_of_isLongInteger h
    rw [parseParameter_of_word hne (quotedContent?_of_isLongInteger h), hf]
    exact ⟨f, rfl, hlong⟩

theorem stopsWith_parseParameters : StopsWith IsTooLong (parseParameters raws) ↔
    ∃ before p after, raws = before ++ p :: after ∧
      (∀ q ∈ before, IsParameter (Text.trim q)) ∧ IsLongInteger (Text.trim p) := by
  induction raws with
  | nil => simp [parseParameters]
  | cons raw raws ih =>
    rw [exists_first_cons, ← ih, parseParameters_cons]
    cases hraw : parseParameter raw with
    | error f =>
      have hlong := isLongInteger_of_parseParameter hraw
      obtain ⟨f', hf', hstop⟩ := stopsWith_parseParameter.mpr hlong
      rw [hraw] at hf'
      cases hf'
      exact iff_of_true ⟨f, rfl, hstop⟩ (.inl hlong)
    | ok outcome =>
      have hshort : ¬ IsLongInteger (Text.trim raw) := by
        rw [← stopsWith_parseParameter, hraw]
        exact not_stopsWith_ok _
      rw [or_iff_right hshort]
      cases outcome with
      | error e =>
        refine iff_of_false (not_stopsWith_ok _) ?_
        rintro ⟨hread, -⟩
        obtain ⟨v, hv⟩ := exists_parseParameter hread hshort
        rw [hraw] at hv
        cases hv
      | ok v => exact stopsWith_map.trans (and_iff_right (isParameter_of_parseParameter hraw)).symm

theorem stopsWith_parseParameters_trim :
    StopsWith IsTooLong (parseParameters (raws.map Text.trim)) ↔
      StopsWith IsTooLong (parseParameters raws) := by
  rw [stopsWith_parseParameters, stopsWith_parseParameters]
  constructor
  · rintro ⟨before, p, after, hsplit, hbefore, hp⟩
    obtain ⟨before, rest, rfl, rfl, hrest⟩ := List.map_eq_append_iff.mp hsplit
    obtain ⟨p, after, rfl, rfl, rfl⟩ := List.map_eq_cons_iff.mp hrest
    rw [Text.trim_trim] at hp
    refine ⟨before, p, after, rfl, fun q hq => ?_, hp⟩
    have := hbefore _ (List.mem_map_of_mem hq)
    rwa [Text.trim_trim] at this
  · rintro ⟨before, p, after, rfl, hbefore, hp⟩
    refine ⟨before.map Text.trim, Text.trim p, after.map Text.trim, by simp, ?_, ?_⟩
    · rintro _ hq
      obtain ⟨q, hmem, rfl⟩ := List.mem_map.mp hq
      rw [Text.trim_trim]
      exact hbefore q hmem
    · rwa [Text.trim_trim]

theorem isTooLong_of_parseParameters (h : parseParameters raws = .error f) : IsTooLong f := by
  obtain ⟨raw, -, hraw⟩ := parseParameters_eq_error h
  obtain ⟨f', hf', hlong⟩ := stopsWith_parseParameter.mpr (isLongInteger_of_parseParameter hraw)
  rw [hraw] at hf'
  cases hf'
  exact hlong

end Parameters

section Texts

theorem exists_names_of_parseChars (h : parseChars text = .error f) :
    ∃ join parameters field, HasPieces text join parameters field ∧
      Text.isIdentifierWord (Text.trim join) = true ∧
      Text.isIdentifierWord (Text.trim field) = true := by
  by_cases hdot : HasBare '.' none text
  · obtain ⟨join, parameters, field, hp, hn⟩ := exists_pieces hdot
    by_contra hnone
    obtain ⟨e, he⟩ := parseChars_of_not_names hp hn fun hnames =>
      hnone ⟨join, parameters, field, hp, hnames.1, hnames.2⟩
    rw [h] at he
    cases he
  · rw [parseChars_of_no_dot hdot] at h
    cases h

theorem isTooLong_of_parseChars (h : parseChars text = .error f) : IsTooLong f := by
  obtain ⟨join, parameters, field, hp, hjoin, hfield⟩ := exists_names_of_parseChars h
  rw [parseChars_of_names hp hjoin hfield] at h
  cases hread : parseParameters (parameters.map Text.trim) with
  | error f' =>
    rw [hread] at h
    cases h
    exact isTooLong_of_parseParameters hread
  | ok outcome =>
    rw [hread] at h
    cases h

theorem stopsWith_parseChars :
    StopsWith IsTooLong (parseChars text) ↔ StopsAtLongInteger text := by
  have hread {join field : List Char} {parameters : List (List Char)}
      (hp : HasPieces text join parameters field)
      (hjoin : Text.isIdentifierWord (Text.trim join) = true)
      (hfield : Text.isIdentifierWord (Text.trim field) = true) :
      StopsWith IsTooLong (parseChars text) ↔ ∃ before p after, parameters = before ++ p :: after ∧
        (∀ q ∈ before, IsParameter (Text.trim q)) ∧ IsLongInteger (Text.trim p) := by
    rw [parseChars_of_names hp hjoin hfield, ← stopsWith_parseParameters,
      ← stopsWith_parseParameters_trim]
    exact stopsWith_map
  constructor
  · intro h
    obtain ⟨f, hf, -⟩ := id h
    obtain ⟨join, parameters, field, hp, hjoin, hfield⟩ := exists_names_of_parseChars hf
    obtain ⟨before, p, after, rfl, hbefore, hlong⟩ := (hread hp hjoin hfield).mp h
    exact ⟨join, before, p, after, field, hp, hjoin, hfield, hbefore, hlong⟩
  · rintro ⟨join, before, p, after, field, hp, hjoin, hfield, hbefore, hlong⟩
    exact (hread hp hjoin hfield).mpr ⟨before, p, after, rfl, hbefore, hlong⟩

theorem exists_parse_iff : (∃ outcome, parse s = .ok outcome) ↔ ¬ StopsAtLongInteger s.toList := by
  rw [exists_ok_iff, ← stopsWith_parseChars]
  refine not_congr ⟨?_, ?_⟩
  · rintro ⟨f, hf, -⟩
    exact ⟨f, hf, isTooLong_of_parseChars hf⟩
  · rintro ⟨f, hf, -⟩
    exact ⟨f, hf, trivial⟩

/-- A text has an outcome, a reference or a failure, unless it stops at an integer of
too many digits. Several texts are read one by one, each into its own outcome. -/
theorem parse_total_iff (s : String) (ss : List String) :
    ((∃ outcome, parse s = .ok outcome) ↔ ¬ StopsAtLongInteger s.toList) ∧
    (∀ f, parse s = .error f → IsTooLong f) ∧
    ((∃ outcomes, parseAll ss = .ok outcomes) ↔ ∀ s ∈ ss, ¬ StopsAtLongInteger s.toList) ∧
    ∀ outcomes, parseAll ss = .ok outcomes ↔
      List.Forall₂ (fun s outcome => parse s = .ok outcome) ss outcomes := by
  refine ⟨exists_parse_iff, fun f => isTooLong_of_parseChars, ?_, fun outcomes => mapM_eq_ok⟩
  constructor
  · rintro ⟨outcomes, h⟩ s hs
    obtain ⟨outcome, -, houtcome⟩ := exists_of_mem_left (mapM_eq_ok.mp h) hs
    exact exists_parse_iff.mp ⟨outcome, houtcome⟩
  · exact fun h => exists_mapM fun s hs => exists_parse_iff.mpr (h s hs)

def longReference : String :=
  String.ofList ('j' :: ':' :: (List.replicate (Text.digitLimit + 1) '1' ++ ['.', 'f']))

theorem stopsAtLongInteger_longReference : StopsAtLongInteger longReference.toList := by
  have hone (c : Char) (hc : c ∈ List.replicate (Text.digitLimit + 1) '1') : c = '1' :=
    List.eq_of_mem_replicate hc
  have hword : IsWord (List.replicate (Text.digitLimit + 1) '1') := by
    refine isWord_of_identifierRest (by simp) fun c hc => ?_
    rw [hone c hc]
    decide
  have hjoin : IsWord ['j'] := isWord_identifier (by decide)
  have hpieces : HasPieces longReference.toList ['j'] [List.replicate (Text.digitLimit + 1) '1']
      ['f'] := by
    refine ⟨?_, ?_, ?_⟩
    · rw [longReference, String.toList_ofList]
      generalize List.replicate (Text.digitLimit + 1) '1' = digits
      simp [List.intercalate]
    · simpa using ⟨hjoin.isBalanced, hword.isBalanced⟩
    · simpa using ⟨hjoin.not_hasBare, hword.not_hasBare⟩
  refine ⟨['j'], [], _, [], ['f'], hpieces, by decide, by decide, nofun, ?_⟩
  rw [hword.trim]
  refine ⟨_, .inl rfl, fun c hc => ?_, by simp⟩
  rw [hone c hc]
  decide

theorem not_total_longReference : ¬ ∀ s, ∃ outcome, parse s = .ok outcome := fun h =>
  exists_parse_iff.mp (h longReference) stopsAtLongInteger_longReference

end Texts

end SchemaJoins.Reference
