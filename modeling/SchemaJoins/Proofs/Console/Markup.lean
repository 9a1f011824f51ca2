import Mathlib.Data.List.TakeWhile
import SchemaJoins.Console.Table
import SchemaJoins.Proofs.Data.Steps

/-! # Texts that can be shown

Only a tag that closes a style which is not open keeps a text from being shown. There is
none in a text without opening brackets, and none is left in a text that is escaped: what
is escaped has a tag only behind an odd number of backslashes, where it is text.
-/

namespace SchemaJoins.Console

variable {styles : List String} {c : Char} {cs rest content post : List Char} {k : Nat}

section Tags

def isBracket (c : Char) : Bool := c == '[' || c == ']'

def Closes (cs : List Char) : Prop := cs.find? isBracket = some ']'

structure IsTagContent (content : List Char) : Prop where
  starts : ∃ c inner, content = c :: inner ∧ startsTag c = true
  plain : ∀ c ∈ content, isBracket c = false

theorem isBracket_eq_false_iff : isBracket c = false ↔ (c != ']' && c != '[') = true := by
  simp only [isBracket, Bool.or_eq_false_iff, beq_eq_false_iff_ne, Bool.and_eq_true, bne_iff_ne]
  exact and_comm

theorem isBracket_of_startsTag (h : startsTag c = true) : isBracket c = false := by
  refine isBracket_eq_false_iff.mpr (Bool.and_eq_true_iff.mpr ⟨?_, ?_⟩)
  · exact bne_iff_ne.mpr fun hc => absurd h (by rw [hc]; decide)
  · exact bne_iff_ne.mpr fun hc => absurd h (by rw [hc]; decide)

theorem drop_length_takeWhile (p : Char → Bool) (cs : List Char) :
    cs.drop (cs.takeWhile p).length = cs.dropWhile p := by
  induction cs with
  | nil => rfl
  | cons c cs ih =>
    cases hc : p c with
    | true =>
      rw [List.takeWhile_cons_of_pos hc, List.dropWhile_cons_of_pos hc, List.length_cons,
        List.drop_succ_cons, ih]
    | false =>
      rw [List.takeWhile_cons_of_neg (by simp [hc]), List.dropWhile_cons_of_neg (by simp [hc])]
      rfl

/-- A tag starts with an opening bracket, and its content ends with the next bracket,
which closes. -/
theorem tag?_eq_some_iff : tag? cs = some (content, rest) ↔
    IsTagContent content ∧ cs = '[' :: (content ++ ']' :: rest) := by
  constructor
  · intro h
    unfold tag? at h
    split at h
    · rename_i d ds
      split at h
      · rename_i hd
        dsimp only at h
        rw [drop_length_takeWhile] at h
        split at h
        · rename_i rest' hrest
          cases h
          refine ⟨⟨⟨d, _, rfl, hd⟩, List.forall_mem_cons.mpr ⟨isBracket_of_startsTag hd, ?_⟩⟩, ?_⟩
          · intro c hc
            have hplain := List.mem_takeWhile_imp hc
            exact isBracket_eq_false_iff.mpr hplain
          · rw [← hrest, List.cons_append, List.takeWhile_append_dropWhile]
        · cases h
      · cases h
    · cases h
  · rintro ⟨⟨⟨d, inner, rfl, hd⟩, hplain⟩, rfl⟩
    have hinner : ∀ c ∈ inner, (c != ']' && c != '[') = true := fun c hc =>
      isBracket_eq_false_iff.mp (hplain c (List.mem_cons_of_mem d hc))
    have htake : (inner ++ ']' :: rest).takeWhile (fun c => c != ']' && c != '[') = inner := by
      rw [List.takeWhile_append_of_pos hinner, List.takeWhile_cons_of_neg (by decide),
        List.append_nil]
    rw [List.cons_append, tag?]
    simp only [hd, if_true, htake, List.drop_left]

theorem tag?_of_ne (h : cs.head? ≠ some '[') : tag? cs = none := by
  refine Option.eq_none_iff_forall_ne_some.mpr fun found hfound => ?_
  obtain ⟨-, rfl⟩ := tag?_eq_some_iff.mp hfound
  exact h rfl

theorem isSome_tag?_cons_iff : (tag? ('[' :: cs)).isSome = true ↔
    Closes cs ∧ ∃ c, cs.head? = some c ∧ startsTag c = true := by
  constructor
  · intro h
    obtain ⟨⟨content, rest⟩, htag⟩ := Option.isSome_iff_exists.mp h
    obtain ⟨⟨⟨c, inner, rfl, hc⟩, hplain⟩, hcs⟩ := tag?_eq_some_iff.mp htag
    obtain rfl := (List.cons.inj hcs).2
    have hcloses : Closes (c :: inner ++ ']' :: rest) := by
      refine List.find?_eq_some_iff_append.mpr ⟨rfl, c :: inner, rest, rfl, fun d hd => ?_⟩
      rw [hplain d hd]
      rfl
    exact ⟨hcloses, c, rfl, hc⟩
  · rintro ⟨hcloses, c, hc, hstarts⟩
    obtain ⟨-, content, rest, rfl, hplain⟩ := List.find?_eq_some_iff_append.mp hcloses
    have hne : content ≠ [] := by
      rintro rfl
      rw [← Option.some.inj hc] at hstarts
      exact absurd hstarts (by decide)
    obtain ⟨d, inner, rfl⟩ := List.exists_cons_of_ne_nil hne
    obtain rfl := Option.some.inj hc
    have hcontent : IsTagContent (d :: inner) :=
      ⟨⟨d, inner, rfl, hstarts⟩, fun e he => by simpa using hplain e he⟩
    rw [tag?_eq_some_iff.mpr ⟨hcontent, rfl⟩]
    rfl

end Tags

section Slashes

def slashes (k : Nat) : List Char := List.replicate k '\\'

def behindSlashes (cs : List Char) : List Char := cs.dropWhile (· == '\\')

theorem exists_slashes (cs : List Char) : ∃ k, cs = slashes k ++ behindSlashes cs := by
  have hall : cs.takeWhile (· == '\\') = slashes (cs.takeWhile (· == '\\')).length := by
    refine List.eq_replicate_iff.mpr ⟨rfl, fun c hc => ?_⟩
    have hslash := List.mem_takeWhile_imp hc
    exact beq_iff_eq.mp hslash
  exact ⟨_, by rw [← hall, behindSlashes, List.takeWhile_append_dropWhile]⟩

theorem takeWhile_slashes_bracket :
    (slashes k ++ '[' :: cs).takeWhile (· == '\\') = slashes k := by
  rw [List.takeWhile_append_of_pos (by simp [slashes]), List.takeWhile_cons_of_neg (by decide),
    List.append_nil]

def tagAhead? (cs : List Char) : Option (List Char × List Char) := tag? (behindSlashes cs)

theorem tagAhead?_slash : tagAhead? ('\\' :: cs) = tagAhead? cs := by
  rw [tagAhead?, behindSlashes, List.dropWhile_cons_of_pos (by decide)]
  rfl

theorem tagAhead?_cons (h : c ≠ '\\') : tagAhead? (c :: cs) = tag? (c :: cs) := by
  rw [tagAhead?, behindSlashes, List.dropWhile_cons_of_neg (by simpa using h)]

theorem exists_of_tagAhead?_eq_some (h : tagAhead? cs = some (content, rest)) :
    ∃ k, cs = slashes k ++ '[' :: (content ++ ']' :: rest) ∧ IsTagContent content := by
  obtain ⟨k, hk⟩ := exists_slashes cs
  obtain ⟨hcontent, htag⟩ := tag?_eq_some_iff.mp h
  exact ⟨k, htag ▸ hk, hcontent⟩

end Slashes

section Pieces

theorem pieces_of_tagAhead?_eq_none {fuel position : Nat} {before : List Char}
    (h : tagAhead? (c :: cs) = none) : pieces (fuel + 1) position before (c :: cs) =
      pieces fuel (position + 1) (c :: before) cs := by
  rw [pieces, drop_length_takeWhile]
  rw [tagAhead?, behindSlashes] at h
  rw [h]

theorem pieces_of_tag {fuel position : Nat} {before : List Char} (h : IsTagContent content) :
    ∃ next, pieces (fuel + 1) position before (slashes k ++ '[' :: (content ++ ']' :: rest)) =
      .text before.reverse :: .text (slashes (k / 2)) ::
        (if k % 2 = 0 then .tag content (position + k) else .text ('[' :: content ++ [']'])) ::
        pieces fuel next [] rest := by
  refine ⟨position + k + content.length + 2, ?_⟩
  have htag := tag?_eq_some_iff.mpr ⟨h, Eq.refl ('[' :: (content ++ ']' :: rest))⟩
  have hlength : (slashes k).length = k := List.length_replicate
  cases hcs : slashes k ++ '[' :: (content ++ ']' :: rest) with
  | nil => simp at hcs
  | cons c cs =>
    rw [pieces, ← hcs, takeWhile_slashes_bracket, List.drop_left, htag]
    simp only [hlength]
    split <;> rfl

/-- The text can be shown where the styles are open, in whatever pieces. -/
def Renders (styles : List String) (cs : List Char) : Prop :=
  ∀ fuel position before, ∃ out, renderPieces styles (pieces fuel position before cs) = .ok out

theorem exists_render {s : String} (h : Renders [] s.toList) : ∃ out, render s = .ok out := h _ _ _

theorem exists_renderPieces_text {ps : List Piece} (h : ∃ out, renderPieces styles ps = .ok out) :
    ∃ out, renderPieces styles (.text cs :: ps) = .ok out := by
  obtain ⟨out, hout⟩ := h
  exact ⟨shown cs ++ out, bind_eq_ok.mpr ⟨out, hout, rfl⟩⟩

namespace Renders

theorem nil : Renders styles [] := by
  intro fuel position before
  cases fuel <;> exact exists_renderPieces_text ⟨[], rfl⟩

theorem cons (hc : tagAhead? (c :: cs) = none) (h : Renders styles cs) :
    Renders styles (c :: cs) := by
  intro fuel position before
  cases fuel with
  | zero => exact exists_renderPieces_text ⟨[], rfl⟩
  | succ fuel =>
    rw [pieces_of_tagAhead?_eq_none hc]
    exact h _ _ _

/-- Behind an odd number of backslashes a tag is text. -/
theorem tag (hcontent : IsTagContent content)
    (heven : k % 2 = 0 → ∀ position, ∃ opened, applyTag content position styles = .ok opened ∧
      Renders opened rest)
    (hodd : k % 2 = 1 → Renders styles rest) :
    Renders styles (slashes k ++ '[' :: (content ++ ']' :: rest)) := by
  intro fuel position before
  cases fuel with
  | zero => exact exists_renderPieces_text ⟨[], rfl⟩
  | succ fuel =>
    obtain ⟨next, hpieces⟩ := @pieces_of_tag rest content k fuel position before hcontent
    rw [hpieces]
    refine exists_renderPieces_text (exists_renderPieces_text ?_)
    split
    · obtain ⟨opened, happlied, hrest⟩ := heven ‹_› (position + k)
      obtain ⟨out, hout⟩ := hrest fuel next []
      exact ⟨out, bind_eq_ok.mpr ⟨opened, happlied, hout⟩⟩
    · exact exists_renderPieces_text (hodd (by omega) fuel next [])

theorem of_not_bracket (h : '[' ∉ cs) : Renders styles cs := by
  induction cs with
  | nil => exact nil
  | cons c cs ih =>
    refine cons ?_ (ih fun hmem => h (List.mem_cons_of_mem c hmem))
    refine Option.eq_none_iff_forall_ne_some.mpr fun found hfound => ?_
    obtain ⟨k, hk, -⟩ := exists_of_tagAhead?_eq_some hfound
    exact h (hk ▸ List.mem_append_right _ List.mem_cons_self)

theorem append {start : List Char} (hbracket : '[' ∉ start) (hslash : '\\' ∉ start)
    (h : Renders styles cs) : Renders styles (start ++ cs) := by
  induction start with
  | nil => exact h
  | cons c start ih =>
    obtain ⟨hcb, hbracket⟩ := List.ne_and_not_mem_of_not_mem_cons hbracket
    obtain ⟨hcs, hslash⟩ := List.ne_and_not_mem_of_not_mem_cons hslash
    refine cons ?_ (ih hbracket hslash)
    rw [tagAhead?_cons hcs.symm]
    exact tag?_of_ne fun hc => hcb (Option.some.inj hc).symm

end Renders

end Pieces

section Escaping

variable {n : Nat}

theorem escapeTags_of_tagAhead?_eq_none (h : tagAhead? (c :: cs) = none) :
    escapeTags (n + 1) (c :: cs) = c :: escapeTags n cs := by
  rw [escapeTags, drop_length_takeWhile]
  rw [tagAhead?, behindSlashes] at h
  rw [h]

theorem escapeTags_of_tag (h : IsTagContent content) :
    escapeTags (n + 1) (slashes k ++ '[' :: (content ++ ']' :: rest)) =
      slashes (2 * k + 1) ++ '[' :: (content ++ ']' :: escapeTags n rest) := by
  have htag := tag?_eq_some_iff.mpr ⟨h, Eq.refl ('[' :: (content ++ ']' :: rest))⟩
  cases hcs : slashes k ++ '[' :: (content ++ ']' :: rest) with
  | nil => simp at hcs
  | cons c cs =>
    rw [escapeTags, ← hcs, takeWhile_slashes_bracket, List.drop_left, htag]
    simp [slashes]

theorem escapeTags_cases (n : Nat) (c : Char) (cs : List Char) :
    (∃ k content rest, IsTagContent content ∧ rest.length < cs.length ∧
        escapeTags (n + 1) (c :: cs) =
          slashes (2 * k + 1) ++ '[' :: (content ++ ']' :: escapeTags n rest)) ∨
      tagAhead? (c :: cs) = none ∧ escapeTags (n + 1) (c :: cs) = c :: escapeTags n cs := by
  cases h : tagAhead? (c :: cs) with
  | none => exact .inr ⟨rfl, escapeTags_of_tagAhead?_eq_none h⟩
  | some found =>
    obtain ⟨k, hcs, hcontent⟩ := exists_of_tagAhead?_eq_some h
    refine .inl ⟨k, found.1, found.2, hcontent, ?_, hcs ▸ escapeTags_of_tag hcontent⟩
    have hlength := congrArg List.length hcs
    simp only [List.length_append, List.length_cons] at hlength
    omega

theorem closes_append_iff : Closes (cs ++ post) ↔
    Closes cs ∨ cs.find? isBracket = none ∧ Closes post := by
  rw [Closes, List.find?_append, Option.or_eq_some_iff]
  rfl

theorem not_closes_slashes_bracket : ¬ Closes (slashes k ++ '[' :: cs) := by
  rw [closes_append_iff, not_or]
  refine ⟨fun h => ?_, fun h => absurd h.2 (by simp [Closes, isBracket])⟩
  have hmem := List.mem_of_find?_eq_some h
  exact absurd (List.eq_of_mem_replicate hmem) (by decide)

theorem closes_of_escapeTags (h : Closes (escapeTags n cs)) : Closes cs := by
  induction n generalizing cs with
  | zero => exact h
  | succ n ih =>
    cases cs with
    | nil => exact h
    | cons c cs =>
      obtain ⟨k, content, rest, -, -, htag⟩ | ⟨-, hchar⟩ := escapeTags_cases n c cs
      · rw [htag] at h
        exact absurd h not_closes_slashes_bracket
      · rw [hchar, Closes, List.find?_cons] at h
        rw [Closes, List.find?_cons]
        cases hc : isBracket c with
        | true => simpa [hc] using h
        | false =>
          rw [hc] at h
          exact ih h

theorem head?_escapeTags {d : Char} (hn : cs.length < n) (hd : d ≠ '\\')
    (h : (escapeTags n cs).head? = some d) : cs.head? = some d := by
  cases n with
  | zero => exact absurd hn (Nat.not_lt_zero _)
  | succ n =>
    cases cs with
    | nil => exact h
    | cons c cs =>
      obtain ⟨k, content, rest, -, -, htag⟩ | ⟨-, hchar⟩ := escapeTags_cases n c cs
      · rw [htag, slashes, List.replicate_succ] at h
        exact absurd (Option.some.inj h).symm hd
      · rwa [hchar] at h

theorem tag?_cons_append_of_escapeTags (hpost : ¬ Closes post) (hn : cs.length < n)
    (h : tag? (c :: cs) = none) : tag? (c :: (escapeTags n cs ++ post)) = none := by
  by_cases hc : c = '['
  · subst hc
    by_contra htag
    obtain ⟨hcloses, d, hd, hstarts⟩ :=
      isSome_tag?_cons_iff.mp (Option.isSome_iff_ne_none.mpr htag)
    have hescaped := (closes_append_iff.mp hcloses).resolve_right fun hp => hpost hp.2
    have hslash : d ≠ '\\' := fun hslash => absurd hstarts (by rw [hslash]; decide)
    have hhead : (escapeTags n cs).head? = some d := by
      cases he : escapeTags n cs with
      | nil =>
        rw [he] at hescaped
        cases hescaped
      | cons => rwa [he] at hd
    have hsome := isSome_tag?_cons_iff.mpr
      ⟨closes_of_escapeTags hescaped, d, head?_escapeTags hn hslash hhead, hstarts⟩
    rw [h] at hsome
    cases hsome
  · exact tag?_of_ne fun hhead => hc (Option.some.inj hhead)

/-- Before a text that is not closed first, an escaped text leads to a tag only by
backslashes at its end. -/
theorem exists_eq_slashes (hpost : ¬ Closes post) (hn : cs.length < n) (h : tagAhead? cs = none)
    (htag : tagAhead? (escapeTags n cs ++ post) ≠ none) : ∃ k, escapeTags n cs = slashes k := by
  induction cs generalizing n with
  | nil =>
    cases n with
    | zero => exact absurd hn (Nat.not_lt_zero _)
    | succ n => exact ⟨0, rfl⟩
  | cons c cs ih =>
    cases n with
    | zero => exact absurd hn (Nat.not_lt_zero _)
    | succ n =>
      have hlength : cs.length < n := by simpa using hn
      rw [escapeTags_of_tagAhead?_eq_none h] at htag ⊢
      rw [List.cons_append] at htag
      by_cases hc : c = '\\'
      · subst hc
        rw [tagAhead?_slash] at h htag
        obtain ⟨k, hk⟩ := ih hlength h htag
        exact ⟨k + 1, by rw [hk]; rfl⟩
      · -- no tag starts here, and what is added to the escaped text behind cannot make one
        exfalso
        rw [tagAhead?_cons hc] at h htag
        exact htag (tag?_cons_append_of_escapeTags hpost hlength h)

theorem renders_escapeTags (hpost : ¬ Closes post) (h : ∀ k, Renders styles (slashes k ++ post))
    (hn : cs.length < n) : Renders styles (escapeTags n cs ++ post) := by
  induction n generalizing cs with
  | zero => exact absurd hn (Nat.not_lt_zero _)
  | succ n ih =>
    cases cs with
    | nil => exact h 0
    | cons c cs =>
      have hn : cs.length < n := by simpa using hn
      obtain ⟨k, content, rest, hcontent, hrest, htag⟩ | ⟨hnone, hchar⟩ := escapeTags_cases n c cs
      · rw [htag, List.append_assoc, List.cons_append, List.append_assoc, List.cons_append]
        -- the backslashes are odd in number, so that only what follows matters
        exact .tag hcontent (fun heven => by omega) fun _ => ih (hrest.trans hn)
      · by_cases htag : tagAhead? (escapeTags (n + 1) (c :: cs) ++ post) = none
        · rw [hchar, List.cons_append] at htag ⊢
          exact .cons htag (ih hn)
        · obtain ⟨k, hk⟩ := exists_eq_slashes hpost (by simpa using hn) hnone htag
          rw [hk]
          exact h k

end Escaping

section Texts

def ShowsAsText (cs : List Char) : Prop := ∀ styles post, ¬ Closes post →
  (∀ k, Renders styles (slashes k ++ post)) → Renders styles (cs ++ post)

theorem ShowsAsText.renders (h : ShowsAsText cs) : Renders styles cs := by
  have hpost : ∀ k, Renders styles (slashes k ++ []) := fun k =>
    .of_not_bracket fun hmem => by simp [slashes] at hmem
  have hshown := h styles [] nofun hpost
  rwa [List.append_nil] at hshown

theorem exists_toList_escape (s : String) :
    ∃ k, (escape s).toList = escapeTags (s.length + 1) s.toList ++ slashes k := by
  unfold escape
  dsimp only
  split
  · exact ⟨0, by simp [slashes]⟩
  · exact ⟨1, by simp [slashes]⟩
  · exact ⟨0, by simp [slashes]⟩

theorem showsAsText_escape (s : String) : ShowsAsText (escape s).toList := by
  intro styles post hpost h
  obtain ⟨j, hj⟩ := exists_toList_escape s
  rw [hj, List.append_assoc]
  refine renders_escapeTags (fun hcloses => ?_) (fun k => ?_) (Nat.lt_succ_of_le ?_)
  · obtain hslashes | ⟨-, hcloses⟩ := closes_append_iff.mp hcloses
    · exact absurd (List.eq_of_mem_replicate (List.mem_of_find?_eq_some hslashes)) (by decide)
    · exact hpost hcloses
  · rw [← List.append_assoc, slashes, slashes, List.replicate_append_replicate]
    exact h (k + j)
  · exact Nat.le_of_eq String.length_toList

structure IsStyleName (name : List Char) : Prop where
  content : IsTagContent name
  notClosing : name.head? ≠ some '/'
  noParameter : '=' ∉ name
  trimmed : Text.trim name = name

variable {name : List Char}

theorem IsStyleName.tagName (h : IsStyleName name) : tagName name = name :=
  List.takeWhile_eq_self_iff.mpr fun _ hc =>
    bne_iff_ne.mpr fun he => h.noParameter (he ▸ hc)

theorem IsStyleName.applyTag (h : IsStyleName name) (position : Nat) :
    applyTag name position styles = .ok (Style.normalForm (String.ofList name) :: styles) := by
  unfold Console.applyTag
  rw [h.tagName]
  split
  · exact absurd rfl h.notClosing
  · rfl

theorem IsStyleName.applyTag_slash (h : IsStyleName name) (position : Nat) :
    Console.applyTag ('/' :: name) position (Style.normalForm (String.ofList name) :: styles) =
      .ok styles := by
  obtain ⟨c, inner, hname, -⟩ := h.content.starts
  have hne : name.isEmpty = false := by rw [hname]; rfl
  have htag : Console.tagName ('/' :: name) = '/' :: name := by
    rw [Console.tagName, List.takeWhile_cons_of_pos (by decide)]
    exact congrArg _ h.tagName
  unfold Console.applyTag
  rw [htag]
  simp only [h.trimmed, hne, Bool.false_eq_true, if_false, closeStyle?, if_true]

theorem renders_styled {body : List Char} (h : IsStyleName name) (hbody : ShowsAsText body)
    (hrest : ∀ styles, Renders styles rest) : Renders styles
      ('[' :: (name ++ ']' :: (body ++ '[' :: ('/' :: name ++ ']' :: rest)))) := by
  have hcontent : IsTagContent ('/' :: name) :=
    ⟨⟨'/', name, rfl, by decide⟩, List.forall_mem_cons.mpr ⟨by decide, h.content.plain⟩⟩
  refine Renders.tag (k := 0) h.content (fun _ position => ⟨_, h.applyTag position, ?_⟩) nofun
  refine hbody _ _ (not_closes_slashes_bracket (k := 0)) fun k => ?_
  exact .tag hcontent (fun _ position => ⟨_, h.applyTag_slash position, hrest _⟩) fun _ => hrest _

theorem exists_paragraph {s : String} (h : Renders [] s.toList) :
    ∃ lines, paragraph s = .ok lines := by
  obtain ⟨out, hout⟩ := exists_render h
  exact ⟨_, by rw [paragraph, hout]; rfl⟩

theorem exists_render_table {t : Table} (htitle : Renders [] t.title.toList)
    (hcolumns : ∀ header ∈ t.columns, Renders [] header.toList)
    (hrows : ∀ row ∈ t.rows, ∀ cell ∈ row, Renders [] cell.toList) :
    ∃ lines, t.render = .ok lines := by
  have hcells : ∀ cells ∈ t.cellsByColumn, ∀ cell ∈ cells, Renders [] cell.toList := by
    intro cells hcells cell hcell
    rw [Table.cellsByColumn, ← List.map_uncurry_zip_eq_zipWith] at hcells
    obtain ⟨⟨i, header⟩, hzip, rfl⟩ := List.mem_map.mp hcells
    obtain rfl | hcell := List.mem_cons.mp hcell
    · exact hcolumns _ (List.of_mem_zip hzip).2
    · obtain ⟨row, hrow, hget⟩ := List.mem_filterMap.mp hcell
      exact hrows row hrow cell (List.mem_of_getElem? hget)
  obtain ⟨columns, hrendered⟩ : ∃ columns, t.cellsByColumn.mapM (·.mapM render) = .ok columns :=
    exists_mapM fun cells hmem => exists_mapM fun cell hcell =>
      exists_render (hcells cells hmem cell hcell)
  obtain ⟨title, htitle⟩ := exists_render htitle
  exact ⟨_, bind_eq_ok.mpr ⟨columns, hrendered, bind_eq_ok.mpr ⟨title, htitle, rfl⟩⟩⟩

end Texts

end SchemaJoins.Console
