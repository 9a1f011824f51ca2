import SchemaJoins.Proofs.Reference.Parameter

/-! # The grammar of references

A reference is a join and parameters with colons between them, a dot and a field.
The pieces of the join are balanced and have no bare colon, so that there is at
most one way to take a text apart, and a text is read exactly when there is one.
-/

namespace SchemaJoins.Reference

/-- The pieces of a text are balanced, stand between colons and before a dot, and
have no bare colon. -/
structure HasPieces (text join : List Char) (parameters : List (List Char)) (field : List Char) :
    Prop where
  text_eq : text = [':'].intercalate (join :: parameters) ++ '.' :: field
  balanced : ∀ p ∈ join :: parameters, IsBalanced p
  whole : ∀ p ∈ join :: parameters, ¬ HasBare ':' none p

/-- The pieces of a text that is a reference: join and field are identifiers with
blanks around them, and every parameter can be read. -/
structure IsReference (text join : List Char) (parameters : List (List Char)) (field : List Char) :
    Prop extends HasPieces text join parameters field where
  join_name : Text.isIdentifierWord (Text.trim join)
  field_name : Text.isIdentifierWord (Text.trim field)
  parameter : ∀ p ∈ parameters, IsParameter (Text.trim p)

section Splits

variable {sep : Char} {cs p : List Char}

theorem splits_and_balanced (hq : isQuote sep = false) {ps : List (List Char)} :
    Splits sep none cs (p :: ps) ∧ IsBalanced cs ↔
      cs = [sep].intercalate (p :: ps) ∧ ∀ s ∈ p :: ps, IsBalanced s ∧ ¬ HasBare sep none s := by
  induction ps generalizing p cs with
  | nil =>
    rw [splits_singleton]
    constructor
    · rintro ⟨⟨rfl, hb⟩, hs⟩
      exact ⟨by simp, by simpa using ⟨hs, hb⟩⟩
    · rintro ⟨rfl, h⟩
      have hp := h p List.mem_cons_self
      exact ⟨⟨by simp, hp.2⟩, by simpa using hp.1⟩
  | cons q ps ih =>
    have hi : [sep].intercalate (p :: q :: ps) = p ++ sep :: [sep].intercalate (q :: ps) := by
      simp [List.intercalate]
    rw [splits_cons_cons, hi]
    constructor
    · rintro ⟨⟨rest, rfl, hb, hs, h⟩, hbal⟩
      have hrest : IsBalanced rest := by
        rwa [IsBalanced, spanAfterAll_append, hs, spanAfterAll_cons, spanAfter_separator hq] at hbal
      obtain ⟨rfl, hall⟩ := ih.mp ⟨h, hrest⟩
      exact ⟨rfl, List.forall_mem_cons.mpr ⟨⟨hs, hb⟩, hall⟩⟩
    · rintro ⟨rfl, hall⟩
      obtain ⟨⟨hs, hb⟩, hall⟩ := List.forall_mem_cons.mp hall
      obtain ⟨h, hrest⟩ := ih.mpr ⟨rfl, hall⟩
      refine ⟨⟨_, rfl, hb, hs, h⟩, ?_⟩
      rwa [IsBalanced, spanAfterAll_append, show spanAfterAll none p = none from hs,
        spanAfterAll_cons, spanAfter_separator hq]

end Splits

section Identifier

theorem not_mem_of_identifier {sep : Char} {cs : List Char} (hb : Text.isBlank sep = false)
    (hr : Text.isIdentifierRest sep = false) (h : Text.isIdentifierWord (Text.trim cs)) :
    sep ∉ cs := by
  obtain ⟨before, after, he, hbefore, hafter⟩ := Text.exists_trim cs
  rw [he, List.mem_append, List.mem_append, not_or, not_or]
  exact ⟨not_mem_blanks hb hbefore, Text.not_mem_of_isIdentifierWord hr h,
    not_mem_blanks hb hafter⟩

end Identifier

section Pieces

variable {text join field : List Char} {parameters : List (List Char)}

theorem IsReference.no_dot (h : IsReference text join parameters field) :
    ¬ HasBare '.' none field :=
  not_hasBare (not_mem_of_identifier (by decide) (by decide) h.field_name)

/-- The last split and the segments before it give the pieces of a text. -/
theorem hasPieces_iff :
    HasPieces text join parameters field ∧ ¬ HasBare '.' none field ↔
      ∃ left, lastSplit? '.' none text = some (left, field) ∧
        segments ':' none left = join :: parameters := by
  have hcolon : isQuote ':' = false := by decide
  have hdot : isQuote '.' = false := by decide
  constructor
  · rintro ⟨h, hn⟩
    obtain ⟨hs, hbal⟩ := (splits_and_balanced hcolon).mpr
      ⟨rfl, fun p hp => ⟨h.balanced p hp, h.whole p hp⟩⟩
    exact ⟨_, (lastSplit?_eq_some hdot).mpr ⟨h.text_eq, hbal, hn⟩, (segments_eq_iff hcolon).mpr hs⟩
  · rintro ⟨left, hl, hs⟩
    obtain ⟨rfl, hbal, hn⟩ := (lastSplit?_eq_some hdot).mp hl
    obtain ⟨rfl, hall⟩ := (splits_and_balanced hcolon).mp ⟨(segments_eq_iff hcolon).mp hs, hbal⟩
    exact ⟨⟨rfl, fun p hp => (hall p hp).1, fun p hp => (hall p hp).2⟩, hn⟩

theorem HasPieces.unique {join' field' : List Char} {parameters' : List (List Char)}
    (h : HasPieces text join parameters field) (hn : ¬ HasBare '.' none field)
    (h' : HasPieces text join' parameters' field') (hn' : ¬ HasBare '.' none field') :
    join = join' ∧ parameters = parameters' ∧ field = field' := by
  obtain ⟨left, hl, hs⟩ := hasPieces_iff.mp ⟨h, hn⟩
  obtain ⟨left', hl', hs'⟩ := hasPieces_iff.mp ⟨h', hn'⟩
  rw [hl] at hl'
  cases hl'
  rw [hs] at hs'
  cases hs'
  exact ⟨rfl, rfl, rfl⟩

theorem exists_pieces (h : HasBare '.' none text) :
    ∃ join parameters field, HasPieces text join parameters field ∧ ¬ HasBare '.' none field := by
  cases hl : lastSplit? '.' none text with
  | none => exact absurd h ((lastSplit?_eq_none (by decide)).mp hl)
  | some parts =>
    obtain ⟨left, field⟩ := parts
    cases hs : segments ':' none left with
    | nil =>
      have hp := (segments_eq_iff (by decide)).mp hs
      cases hp
    | cons join parameters =>
      exact ⟨join, parameters, field, hasPieces_iff.mpr ⟨left, hl, hs⟩⟩

theorem parseChars_of_no_dot (h : ¬ HasBare '.' none text) :
    parseChars text = .ok (.error (.format (String.ofList text))) := by
  have hl : splitLast? '.' text = none := by
    rw [splitLast?, (lastSplit?_eq_none (by decide)).mpr h]
    rfl
  simp only [parseChars, hl]

theorem parseJoin_of_segments {left : List Char}
    (hs : segments ':' none left = join :: parameters) :
    parseJoin (Text.trim left) =
      if Text.isIdentifierWord (Text.trim join) then
        (parseParameters (parameters.map Text.trim)).map
          (·.map fun vs => (String.ofList (Text.trim join), vs))
      else .ok (.error (.join (String.ofList (Text.trim join)))) := by
  have hsplit : split ':' (Text.trim left) = Text.trim join :: parameters.map Text.trim := by
    rw [split_trim (by decide) (by decide), split, hs, List.map_cons]
  simp only [parseJoin, hsplit, Text.isIdentifier_trim]
  split
  · cases parseParameters (parameters.map Text.trim) <;> rfl
  · rfl

theorem trim_ne_nil_of_segments {left : List Char}
    (hs : segments ':' none left = join :: parameters)
    (hj : Text.isIdentifierWord (Text.trim join)) : Text.trim left ≠ [] := by
  intro he
  have hsplit : split ':' (Text.trim left) = split ':' left :=
    split_trim (by decide) (by decide) left
  rw [he, split, split, hs] at hsplit
  have hjoin : Text.trim join = [] := (List.cons.inj hsplit).1.symm
  rw [hjoin] at hj
  cases hj

theorem parseChars_of_names (h : HasPieces text join parameters field)
    (hj : Text.isIdentifierWord (Text.trim join)) (hf : Text.isIdentifierWord (Text.trim field)) :
    parseChars text = (parseParameters (parameters.map Text.trim)).map (·.map fun vs =>
      ⟨String.ofList (Text.trim join), String.ofList (Text.trim field), vs⟩) := by
  have hn : ¬ HasBare '.' none field :=
    not_hasBare (not_mem_of_identifier (by decide) (by decide) hf)
  obtain ⟨left, hl, hs⟩ := hasPieces_iff.mp ⟨h, hn⟩
  have hsplit : splitLast? '.' text = some (Text.trim left, Text.trim field) := by
    rw [splitLast?, hl]
    rfl
  have hne : ((Text.trim left).isEmpty || (Text.trim field).isEmpty) = false := by
    have hright : Text.trim field ≠ [] := by
      intro he
      rw [he] at hf
      cases hf
    simp [trim_ne_nil_of_segments hs hj, hright]
  simp only [parseChars, hsplit, hne, Text.isIdentifier_trim, hf, parseJoin_of_segments hs, hj,
    Bool.false_eq_true, if_false, if_true]
  cases parseParameters (parameters.map Text.trim) with
  | error f => rfl
  | ok o => cases o <;> rfl

theorem parseChars_of_not_names (h : HasPieces text join parameters field)
    (hn : ¬ HasBare '.' none field)
    (hname : ¬ (Text.isIdentifierWord (Text.trim join) ∧ Text.isIdentifierWord (Text.trim field))) :
    ∃ e, parseChars text = .ok (.error e) := by
  obtain ⟨left, hl, hs⟩ := hasPieces_iff.mp ⟨h, hn⟩
  have hsplit : splitLast? '.' text = some (Text.trim left, Text.trim field) := by
    rw [splitLast?, hl]
    rfl
  simp only [parseChars, hsplit, Text.isIdentifier_trim, parseJoin_of_segments hs]
  split
  · exact ⟨_, rfl⟩
  split
  · rename_i hf
    rw [if_neg fun hj => hname ⟨hj, hf⟩]
    exact ⟨_, rfl⟩
  · exact ⟨_, rfl⟩

end Pieces

theorem forall₂_map_trim {parameters : List (List Char)} {vs : List Value} :
    List.Forall₂ (fun raw v => parseParameter raw = .ok (.ok v)) (parameters.map Text.trim) vs ↔
      List.Forall₂ (fun raw v => parseParameter raw = .ok (.ok v)) parameters vs := by
  rw [List.forall₂_map_left_iff]
  simp only [parseParameter_trim]

section Outcome

variable {text : List Char}

theorem exists_isLongInteger_of_parseChars {f : Fault} (h : parseChars text = .error f) :
    ∃ join parameters field, HasPieces text join parameters field ∧ ¬ HasBare '.' none field ∧
      ∃ p ∈ parameters, IsLongInteger (Text.trim p) := by
  by_cases hdot : HasBare '.' none text
  · obtain ⟨join, parameters, field, hp, hn⟩ := exists_pieces hdot
    refine ⟨join, parameters, field, hp, hn, ?_⟩
    by_cases hname : Text.isIdentifierWord (Text.trim join) ∧
        Text.isIdentifierWord (Text.trim field)
    · rw [parseChars_of_names hp hname.1 hname.2] at h
      cases hps : parseParameters (parameters.map Text.trim) with
      | error f =>
        obtain ⟨raw, hm, hr⟩ := parseParameters_eq_error hps
        obtain ⟨p, hpm, rfl⟩ := List.mem_map.mp hm
        exact ⟨p, hpm, by simpa using isLongInteger_of_parseParameter hr⟩
      | ok o =>
        rw [hps] at h
        cases h
    · obtain ⟨e, he⟩ := parseChars_of_not_names hp hn hname
      rw [he] at h
      cases h
  · rw [parseChars_of_no_dot hdot] at h
    cases h

theorem isReference_of_parseChars {r : Reference} (h : parseChars text = .ok (.ok r)) :
    ∃ join parameters field, IsReference text join parameters field ∧
      r.join = String.ofList (Text.trim join) ∧ r.field = String.ofList (Text.trim field) ∧
      List.Forall₂ (fun p v => parseParameter p = .ok (.ok v)) parameters r.parameters := by
  by_cases hdot : HasBare '.' none text
  · obtain ⟨join, parameters, field, hp, hn⟩ := exists_pieces hdot
    by_cases hname : Text.isIdentifierWord (Text.trim join) ∧
        Text.isIdentifierWord (Text.trim field)
    · rw [parseChars_of_names hp hname.1 hname.2] at h
      cases hps : parseParameters (parameters.map Text.trim) with
      | error f =>
        rw [hps] at h
        cases h
      | ok o =>
        rw [hps] at h
        cases o with
        | error e => cases h
        | ok vs =>
          cases h
          have hvs := forall₂_map_trim.mp (parseParameters_eq_ok.mp hps)
          exact ⟨join, parameters, field,
            ⟨hp, hname.1, hname.2, isParameter_of_forall₂ hvs⟩, rfl, rfl, hvs⟩
    · obtain ⟨e, he⟩ := parseChars_of_not_names hp hn hname
      rw [he] at h
      cases h
  · rw [parseChars_of_no_dot hdot] at h
    cases h

theorem IsReference.exists_parseChars {join field : List Char} {parameters : List (List Char)}
    (h : IsReference text join parameters field)
    (hl : ∀ p ∈ parameters, ¬ IsLongInteger (Text.trim p)) :
    ∃ r, parseChars text = .ok (.ok r) := by
  have hread : ∀ raw ∈ parameters.map Text.trim, ∃ v, parseParameter raw = .ok (.ok v) := by
    intro raw hm
    obtain ⟨p, hp, rfl⟩ := List.mem_map.mp hm
    obtain ⟨v, hv⟩ := exists_parseParameter (h.parameter p hp) (hl p hp)
    exact ⟨v, parseParameter_trim.mpr hv⟩
  obtain ⟨vs, hvs⟩ := exists_parseParameters hread
  rw [parseChars_of_names h.toHasPieces h.join_name h.field_name, hvs]
  exact ⟨_, rfl⟩

end Outcome

theorem kind_eq_parameterized_iff (r : Reference) :
    r.kind = .parameterized ↔ 1 ≤ r.parameters.length := by
  rw [kind]
  cases r.parameters <;> simp

/-- A text is read as a reference exactly when it has the pieces of one. There is
at most one choice of pieces; they give join and field, and one value for each
parameter in order. -/
theorem parse_iff_isReference (s : String)
    (hlong : ∀ join parameters field, HasPieces s.toList join parameters field →
      ¬ HasBare '.' none field → ∀ p ∈ parameters, ¬ IsLongInteger (Text.trim p)) :
    (∃ outcome, parse s = .ok outcome) ∧
    ((∃ r, parse s = .ok (.ok r)) ↔
      ∃ join parameters field, IsReference s.toList join parameters field) ∧
    (∀ join parameters field join' parameters' field',
      IsReference s.toList join parameters field →
      IsReference s.toList join' parameters' field' →
      join = join' ∧ parameters = parameters' ∧ field = field') ∧
    ∀ r join parameters field, parse s = .ok (.ok r) →
      IsReference s.toList join parameters field →
      r.join = String.ofList (Text.trim join) ∧ r.field = String.ofList (Text.trim field) ∧
      List.Forall₂ (fun p v => parseParameter p = .ok (.ok v)) parameters r.parameters ∧
      (r.kind = .parameterized ↔ 1 ≤ parameters.length) := by
  refine ⟨?_, ⟨?_, ?_⟩, ?_, ?_⟩
  · cases h : parse s with
    | ok outcome => exact ⟨outcome, rfl⟩
    | error f =>
      obtain ⟨join, parameters, field, hp, hn, p, hm, hl⟩ := exists_isLongInteger_of_parseChars h
      exact absurd hl (hlong join parameters field hp hn p hm)
  · rintro ⟨r, h⟩
    obtain ⟨join, parameters, field, hr, -⟩ := isReference_of_parseChars h
    exact ⟨join, parameters, field, hr⟩
  · rintro ⟨join, parameters, field, h⟩
    exact h.exists_parseChars (hlong _ _ _ h.toHasPieces h.no_dot)
  · intro join parameters field join' parameters' field' h h'
    exact h.toHasPieces.unique h.no_dot h'.toHasPieces h'.no_dot
  · intro r join parameters field h hr
    obtain ⟨join', parameters', field', hr', hj, hf, hvs⟩ := isReference_of_parseChars h
    obtain ⟨rfl, rfl, rfl⟩ := hr'.toHasPieces.unique hr'.no_dot hr.toHasPieces hr.no_dot
    exact ⟨hj, hf, hvs, by rw [kind_eq_parameterized_iff, hvs.length_eq]⟩

/-- A quoted dot, a dot within a number and the dot before the field. -/
theorem parse_iff_isReference_files :
    let s := "files : 'report.pdf':12.5 .size"
    (∀ join parameters field, HasPieces s.toList join parameters field →
      ¬ HasBare '.' none field → ∀ p ∈ parameters, ¬ IsLongInteger (Text.trim p)) ∧
    (∃ outcome, parse s = .ok outcome) ∧
    ((∃ r, parse s = .ok (.ok r)) ↔
      ∃ join parameters field, IsReference s.toList join parameters field) ∧
    (∀ join parameters field join' parameters' field',
      IsReference s.toList join parameters field →
      IsReference s.toList join' parameters' field' →
      join = join' ∧ parameters = parameters' ∧ field = field') ∧
    ∀ r join parameters field, parse s = .ok (.ok r) →
      IsReference s.toList join parameters field →
      r.join = String.ofList (Text.trim join) ∧ r.field = String.ofList (Text.trim field) ∧
      List.Forall₂ (fun p v => parseParameter p = .ok (.ok v)) parameters r.parameters ∧
      (r.kind = .parameterized ↔ 1 ≤ parameters.length) := by
  intro s
  have hlong : ∀ join parameters field, HasPieces s.toList join parameters field →
      ¬ HasBare '.' none field → ∀ p ∈ parameters, ¬ IsLongInteger (Text.trim p) := by
    intro join parameters field h hn
    obtain ⟨left, hl, hs⟩ := hasPieces_iff.mp ⟨h, hn⟩
    have hl' : lastSplit? '.' none s.toList =
        some ("files : 'report.pdf':12.5 ".toList, "size".toList) := by decide
    rw [hl'] at hl
    cases hl
    have hs' : segments ':' none "files : 'report.pdf':12.5 ".toList =
        ["files ".toList, " 'report.pdf'".toList, "12.5 ".toList] := by decide
    rw [hs'] at hs
    cases hs
    intro p hp
    refine not_isLongInteger_of_length ?_
    rcases List.mem_pair.mp hp with rfl | rfl <;> decide
  exact ⟨hlong, parse_iff_isReference s hlong⟩

end SchemaJoins.Reference
