import SchemaJoins.Proofs.Data.Plain
import SchemaJoins.Source.Joins

/-! # Fragments of text

In a text that is not well formed the joins are cut out up to the brace that closes the first
one. A written value is cut out whole: the scan comes out of it in the state in which it went
in, since no brace in quotes counts and all others are balanced.
-/

namespace SchemaJoins.Source

open Text

variable {s s' s'' : BraceScan} {cs ds rest : List Char} {c q : Char} {depth : Nat}

section Scan

/-- The scan goes over the text from one state to another, and does not end on the way. -/
def Passes (s : BraceScan) (cs : List Char) (s' : BraceScan) : Prop :=
  ∀ rest, bracedFrom s (cs ++ rest) = (bracedFrom s' rest).map (cs ++ ·)

theorem Passes.nil (s : BraceScan) : Passes s [] s := by
  intro rest
  simp

theorem Passes.append (h : Passes s cs s') (h' : Passes s' ds s'') : Passes s (cs ++ ds) s'' := by
  intro rest
  rw [List.append_assoc, h, h', Option.map_map]
  congr 1
  funext text
  exact (List.append_assoc cs ds text).symm

theorem passes_singleton (h : s.quote = none → c = '}' → (s.next c).depth ≠ 0) :
    Passes s [c] (s.next c) := by
  intro rest
  rw [List.singleton_append, bracedFrom]
  refine if_neg ?_
  rintro ⟨hquote, hc, hdepth⟩
  exact h (Option.isNone_iff_eq_none.mp hquote) hc hdepth

theorem Passes.cons (hc : Passes s [c] s') (h : Passes s' cs s'') : Passes s (c :: cs) s'' :=
  hc.append h

theorem Passes.flatMap {α : Type} {xs : List α} {f : α → List Char}
    (h : ∀ x ∈ xs, Passes s (f x) s) : Passes s (xs.flatMap f) s := by
  induction xs with
  | nil => exact .nil s
  | cons x xs ih =>
    obtain ⟨hx, hxs⟩ := List.forall_mem_cons.mp h
    exact hx.append (ih hxs)

def outside (depth : Nat) : BraceScan := ⟨depth, none, false⟩

def inside (depth : Nat) (q : Char) : BraceScan := ⟨depth, some q, false⟩

theorem passes_plain (h : ∀ c ∈ cs, IsPlain c) : Passes (outside depth) cs (outside depth) := by
  induction cs with
  | nil => exact .nil _
  | cons c cs ih =>
    obtain ⟨⟨hsingle, hdouble, hopen, hclose⟩, hcs⟩ := List.forall_mem_cons.mp h
    have hnext : (outside depth).next c = outside depth := by
      simp [outside, BraceScan.next, hsingle, hdouble, hopen, hclose]
    have hc : Passes (outside depth) [c] ((outside depth).next c) :=
      passes_singleton fun _ he => absurd he hclose
    rw [hnext] at hc
    exact hc.cons (ih hcs)

/-- What is balanced in itself is so in braces, if these are not the outermost. -/
theorem passes_braces (h : Passes (outside (depth + 2)) cs (outside (depth + 2))) :
    Passes (outside (depth + 1)) ('{' :: (cs ++ ['}'])) (outside (depth + 1)) := by
  have hopen : Passes (outside (depth + 1)) ['{'] (outside (depth + 2)) :=
    passes_singleton fun _ he => absurd he (by decide)
  have hclose : Passes (outside (depth + 2)) ['}'] (outside (depth + 1)) :=
    passes_singleton fun _ _ => Nat.succ_ne_zero depth
  exact hopen.cons (h.append hclose)

end Scan

section Quoted

theorem delimiter_cases (cs : List Char) : delimiter cs = '"' ∨ delimiter cs = '\'' := by
  unfold delimiter
  split
  · exact .inl rfl
  · exact .inr rfl

theorem passes_inside (hq : c ≠ q) (hescape : c ≠ '\\') :
    Passes (inside depth q) [c] (inside depth q) := by
  have hnext : (inside depth q).next c = inside depth q := by
    simp [inside, BraceScan.next, hq, hescape]
  have hc : Passes (inside depth q) [c] ((inside depth q).next c) := passes_singleton nofun
  rwa [hnext] at hc

/-- A backslash takes the character behind it along, be it a quote or a backslash. -/
theorem passes_escaped (c : Char) : Passes (inside depth q) ['\\', c] (inside depth q) := by
  have hescape : Passes (inside depth q) ['\\'] ⟨depth, some q, true⟩ := passes_singleton nofun
  have hc : Passes ⟨depth, some q, true⟩ [c] (inside depth q) := passes_singleton nofun
  exact hescape.cons hc

theorem digitChar_ne {n : Nat} (h : n < 16) :
    Nat.digitChar n ≠ '"' ∧ Nat.digitChar n ≠ '\'' ∧ Nat.digitChar n ≠ '\\' := by
  decide +revert

theorem passes_hexDigits (hq : q = '"' ∨ q = '\'') (n width : Nat) :
    Passes (inside depth q) (hexDigits n width) (inside depth q) := by
  induction width generalizing n with
  | zero => exact .nil _
  | succ width ih =>
    obtain ⟨hdouble, hsingle, hescape⟩ := digitChar_ne (Nat.mod_lt n (by decide : 0 < 16))
    refine (ih (n / 16)).append (passes_inside ?_ hescape)
    rcases hq with rfl | rfl
    · exact hdouble
    · exact hsingle

theorem passes_escapeCode (hq : q = '"' ∨ q = '\'') (n : Nat) :
    Passes (inside depth q) (escapeCode n) (inside depth q) := by
  unfold escapeCode
  split
  · exact (passes_escaped 'x').append (passes_hexDigits hq n 2)
  · split
    · exact (passes_escaped 'u').append (passes_hexDigits hq n 4)
    · exact (passes_escaped 'U').append (passes_hexDigits hq n 8)

theorem passes_escapeChar (hq : q = '"' ∨ q = '\'') (c : Char) :
    Passes (inside depth q) (escapeChar q c) (inside depth q) := by
  unfold escapeChar
  split
  · exact passes_escaped c
  · rename_i hc
    obtain ⟨hquote, hescape⟩ := not_or.mp hc
    split
    · exact passes_escaped 'n'
    split
    · exact passes_escaped 'r'
    split
    · exact passes_escaped 't'
    split
    · exact passes_inside hquote hescape
    · exact passes_escapeCode hq c.toNat

theorem passes_delimited (hq : q = '"' ∨ q = '\'')
    (h : Passes (inside depth q) cs (inside depth q)) :
    Passes (outside depth) (q :: (cs ++ [q])) (outside depth) := by
  have hopen : (outside depth).next q = inside depth q := by
    rcases hq with rfl | rfl <;> rfl
  have hclose : (inside depth q).next q = outside depth := by
    rcases hq with rfl | rfl <;> rfl
  have hfirst : Passes (outside depth) [q] ((outside depth).next q) := by
    refine passes_singleton fun _ he => ?_
    rcases hq with rfl | rfl <;> exact absurd he (by decide)
  have hlast : Passes (inside depth q) [q] ((inside depth q).next q) := passes_singleton nofun
  rw [hopen] at hfirst
  rw [hclose] at hlast
  exact hfirst.cons (h.append hlast)

theorem passes_quote (cs : List Char) :
    Passes (outside depth) (quote cs) (outside depth) := by
  have hq := delimiter_cases cs
  exact passes_delimited hq (.flatMap fun c _ => passes_escapeChar hq c)

theorem passes_quoteBytes (bytes : List UInt8) :
    Passes (outside depth) (quoteBytes bytes) (outside depth) := by
  have hq := delimiter_cases (bytes.map fun b => Char.ofNat b.toNat)
  have hmark : Passes (outside depth) ['b'] (outside depth) := passes_plain (by decide)
  refine hmark.cons (passes_delimited hq (.flatMap fun c _ => ?_))
  split
  · exact passes_escapeChar hq c
  · exact passes_escapeCode hq c.toNat

end Quoted

section Written

open Value

theorem passes_brackets (opening closing : Char) (hopening : IsPlain opening)
    (hclosing : IsPlain closing) (h : Passes (outside depth) cs (outside depth)) :
    Passes (outside depth) (opening :: (cs ++ [closing])) (outside depth) := by
  have hfirst : Passes (outside depth) [opening] (outside depth) :=
    passes_plain (List.forall_mem_singleton.mpr hopening)
  have hlast : Passes (outside depth) [closing] (outside depth) :=
    passes_plain (List.forall_mem_singleton.mpr hclosing)
  exact hfirst.cons (h.append hlast)

mutual

/-- A written value leaves the scan in the state in which it finds it. -/
theorem passes_literalChars : (v : Value) → (depth : Nat) →
    Passes (outside (depth + 1)) v.literalChars (outside (depth + 1))
  | .null, depth => passes_plain (by decide)
  | .bool b, depth => by
    rw [literalChars]
    cases b <;> exact passes_plain (by decide)
  | .int n, depth => passes_plain (IsPlainText.int n)
  | .real x, depth => passes_plain x.isPlainText_text
  | .text s, depth => passes_quote s.toList
  | .list items, depth => by
    rw [literalChars]
    exact passes_brackets '[' ']' (by decide) (by decide) (passes_itemChars items depth)
  | .tuple [], depth => passes_plain (by decide)
  | .tuple [v], depth => by
    have hcomma : Passes (outside (depth + 1)) [','] (outside (depth + 1)) :=
      passes_plain (by decide)
    rw [literalChars]
    have h := passes_brackets '(' ')' (by decide) (by decide)
      ((passes_literalChars v depth).append hcomma)
    rwa [List.append_assoc] at h
  | .tuple (v :: w :: items), depth => by
    rw [literalChars]
    · exact passes_brackets '(' ')' (by decide) (by decide)
        (passes_itemChars (v :: w :: items) depth)
    · nofun
  | .map entries, depth => by
    rw [literalChars]
    exact passes_braces (passes_entryChars entries (depth + 1))
  | .set [], depth => passes_plain (by decide)
  | .set (v :: items), depth => by
    rw [literalChars]
    · exact passes_braces (passes_itemChars (v :: items) (depth + 1))
    · nofun
  | .bytes data, depth => passes_quoteBytes data
  | .date d, depth => passes_plain d.isPlainText_literal
  | .moment m, depth => passes_plain m.isPlainText_literal

theorem passes_itemChars : (items : List Value) → (depth : Nat) →
    Passes (outside (depth + 1)) (itemChars items) (outside (depth + 1))
  | [], depth => .nil _
  | [v], depth => passes_literalChars v depth
  | v :: w :: items, depth => by
    have hcomma : Passes (outside (depth + 1)) [',', ' '] (outside (depth + 1)) :=
      passes_plain (by decide)
    have hrest := hcomma.append (passes_itemChars (w :: items) depth)
    exact (passes_literalChars v depth).append hrest

theorem passes_entryChars : (entries : List (Value × Value)) → (depth : Nat) →
    Passes (outside (depth + 1)) (entryChars entries) (outside (depth + 1))
  | [], depth => .nil _
  | [(k, v)], depth => by
    have hcolon : Passes (outside (depth + 1)) [':', ' '] (outside (depth + 1)) :=
      passes_plain (by decide)
    exact (passes_literalChars k depth).append (hcolon.append (passes_literalChars v depth))
  | (k, v) :: e :: entries, depth => by
    have hcolon : Passes (outside (depth + 1)) [':', ' '] (outside (depth + 1)) :=
      passes_plain (by decide)
    have hcomma : Passes (outside (depth + 1)) [',', ' '] (outside (depth + 1)) :=
      passes_plain (by decide)
    have hrest := hcomma.append (passes_entryChars (e :: entries) depth)
    have hvalue := (passes_literalChars v depth).append hrest
    exact (passes_literalChars k depth).append (hcolon.append hvalue)

end

theorem braced?_literalChars (entries : List (Value × Value)) (rest : List Char) :
    braced? ((Value.map entries).literalChars ++ rest) = some (Value.map entries).literalChars := by
  have hopen : Passes (outside 0) ['{'] (outside 1) :=
    passes_singleton fun _ he => absurd he (by decide)
  have hclose : bracedFrom (outside 1) ('}' :: rest) = some ['}'] := rfl
  have hentries := hopen.cons (passes_entryChars entries 0)
  rw [literalChars, ← List.cons_append, List.append_assoc]
  show bracedFrom (outside 0) _ = _
  rw [hentries]
  show (bracedFrom (outside 1) ('}' :: rest)).map _ = _
  rw [hclose]
  rfl

end Written

section Found

variable {inWord : Bool} {found : List Char}

theorem isPrefix_append_cons_iff {word : List Char} (h : c ∉ word) :
    word <+: cs ++ c :: rest ↔ word <+: cs := by
  induction cs generalizing word with
  | nil =>
    cases word with
    | nil => simp
    | cons d word =>
      have hd : d ≠ c := fun he => h (he ▸ List.mem_cons_self)
      simp [List.cons_prefix_cons, hd]
  | cons d cs ih =>
    cases word with
    | nil => simp
    | cons e word =>
      have hword : c ∉ word := fun hm => h (List.mem_cons_of_mem e hm)
      rw [List.cons_append, List.cons_prefix_cons, List.cons_prefix_cons, ih hword]

theorem dropQuote_append : dropQuote (cs ++ '{' :: rest) = dropQuote cs ++ '{' :: rest := by
  cases cs with
  | nil => rfl
  | cons d cs =>
    by_cases hsingle : d = '\''
    · rw [hsingle]
      rfl
    · by_cases hdouble : d = '"'
      · rw [hdouble]
        rfl
      · simp [dropQuote, hsingle, hdouble]

theorem trimLeft_append_brace : trimLeft (cs ++ '{' :: rest) = trimLeft cs ++ '{' :: rest := by
  rw [trimLeft, trimLeft, List.dropWhile_append]
  split
  · rename_i hempty
    rw [List.isEmpty_iff.mp hempty]
    rfl
  · rfl

theorem head?_append_brace (rest : List Char) (p : Char → Bool) :
    (cs ++ '{' :: rest).head?.any p = (cs ++ ['{']).head?.any p := by
  cases cs <;> rfl

def fromBrace? : List Char → Option (List Char)
  | '{' :: body => some ('{' :: body)
  | _ => none

theorem fromBrace?_append :
    fromBrace? (cs ++ '{' :: rest) = (fromBrace? (cs ++ ['{'])).map (· ++ rest) := by
  cases cs with
  | nil => rfl
  | cons c cs =>
    by_cases hc : c = '{'
    · rw [hc]
      simp [fromBrace?]
    · simp [fromBrace?, hc]

theorem joinsText?_append (cs rest : List Char) :
    joinsText? (cs ++ '{' :: rest) = (joinsText? (cs ++ ['{'])).map (· ++ rest) := by
  have hbrace : '{' ∉ joinsName.toList := by decide
  unfold joinsText?
  -- the name has no brace in it, so that it stands before the brace or nowhere
  simp only [isPrefix_append_cons_iff hbrace,
    List.isPrefixOf_iff_prefix]
  by_cases hname : joinsName.toList <+: cs
  · rw [if_pos hname, if_pos hname]
    obtain ⟨behind, rfl⟩ := hname
    have hdrop (rest : List Char) :
        (joinsName.toList ++ behind ++ '{' :: rest).drop joinsName.length =
          behind ++ '{' :: rest := by
      rw [List.append_assoc]
      rfl
    simp only [hdrop, dropQuote_append, trimLeft_append_brace, head?_append_brace rest]
    split
    · rfl
    · -- Before the brace stand a sign and blanks, or these are no joins.
      cases trimLeft (dropQuote behind) with
      | nil => rfl
      | cons sign blanks =>
        have hbody : fromBrace? (trimLeft (blanks ++ '{' :: rest)) =
            (fromBrace? (trimLeft (blanks ++ ['{']))).map (· ++ rest) := by
          rw [trimLeft_append_brace, trimLeft_append_brace, fromBrace?_append]
        by_cases hcolon : sign = ':'
        · rw [hcolon]
          exact hbody
        · by_cases hequal : sign = '='
          · rw [hequal]
            exact hbody
          · simp [hcolon, hequal]
  · rw [if_neg hname, if_neg hname]
    rfl

theorem findJoinsText_append (h : findJoinsText inWord (cs ++ ['{']) = some found) :
    findJoinsText inWord (cs ++ '{' :: rest) = some (found ++ rest) := by
  induction cs generalizing inWord with
  | nil => cases inWord <;> contradiction
  | cons c cs ih =>
    have hhere := joinsText?_append (c :: cs) rest
    rw [List.cons_append, findJoinsText] at h ⊢
    rw [List.cons_append, List.cons_append] at hhere
    rw [hhere]
    cases inWord with
    | true => exact ih h
    | false =>
      cases hjoins : joinsText? (c :: (cs ++ ['{'])) with
      | none =>
        rw [hjoins] at h
        exact ih h
      | some text =>
        rw [hjoins] at h
        exact congrArg (Option.map (· ++ rest)) h

/-- Where the first joins of a text have their brace at its end, a map written in the place of
that brace is exactly what the scan takes, whatever its texts contain and whatever comes
behind it. -/
theorem fragment_written (entries : List (Value × Value)) (before after : String)
    (h : findJoinsText false (before ++ "joins: \x7b").toList = some ['{']) :
    let written := (Value.map entries).literal
    let content := before ++ "joins: " ++ written ++ after
    findJoinsText false content.toList = some (written ++ after).toList ∧
      braced? (written ++ after).toList = some written.toList ∧
      Extraction.ofFragment content.toList =
        (match parseExpression written with
          | none => .ok (.failed .illFormed)
          | some tree => Extraction.ofNode tree) := by
  intro written content
  have hwritten : written.toList = (Value.map entries).literalChars := String.toList_ofList
  obtain ⟨body, hbody⟩ : ∃ body, written.toList = '{' :: body := by
    rw [hwritten, Value.literalChars]
    exact ⟨_, rfl⟩
  have hfound : findJoinsText false content.toList = some (written ++ after).toList := by
    have hopen : (before ++ "joins: \x7b").toList = (before ++ "joins: ").toList ++ ['{'] := by
      simp [String.toList_append]
    have hcontent : content.toList =
        (before ++ "joins: ").toList ++ '{' :: (body ++ after.toList) := by
      simp only [content, String.toList_append, hbody, List.append_assoc, List.cons_append]
    rw [hopen] at h
    rw [hcontent, findJoinsText_append h, String.toList_append, hbody]
    rfl
  have hcut : braced? (written ++ after).toList = some written.toList := by
    rw [String.toList_append, hwritten]
    exact braced?_literalChars entries after.toList
  refine ⟨hfound, hcut, ?_⟩
  rw [Extraction.ofFragment, hfound]
  cases hparsed : parseExpression written <;>
    simp only [hcut, String.ofList_toList, hparsed]

/-- Quotes, a brace, a backslash and a line end within the map, an open brace and quote behind. -/
theorem fragment_written_quotes :
    let entries : List (Value × Value) :=
      [(.text "it's", .list [.int 1, .tuple [.real (.finite true 1 (-1))]]),
        (.text "\x7d'\"", .map [(.bool true, .text "\\\n")])]
    let written := "\x7b\"it's\": [1, (-0.5,)], '\x7d\\'\"': \x7bTrue: '\\\\\\n'\x7d\x7d"
    findJoinsText false ("domain(\n " ++ "joins: \x7b").toList = some ['{'] ∧
      (Value.map entries).literal = written ∧
      findJoinsText false ("domain(\n " ++ "joins: " ++ written ++ " \x7b'").toList =
        some (written ++ " \x7b'").toList ∧
      braced? (written ++ " \x7b'").toList = some written.toList := by
  intro entries written
  have hfirst : findJoinsText false ("domain(\n " ++ "joins: \x7b").toList = some ['{'] := by
    decide +kernel
  have hwritten : (Value.map entries).literal = written := by decide +kernel
  obtain ⟨hfound, hcut, -⟩ := fragment_written entries "domain(\n " " \x7b'" hfirst
  rw [hwritten] at hfound hcut
  exact ⟨hfirst, hwritten, hfound, hcut⟩

end Found

end SchemaJoins.Source
