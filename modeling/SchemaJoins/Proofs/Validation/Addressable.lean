import SchemaJoins.Proofs.Declaration.Placeholders
import SchemaJoins.Proofs.Validation.Flags

/-! # Parameters that a condition can mention

A condition mentions a parameter as a placeholder, and the scan for placeholders takes
identifiers only. A parameter may have a name that a line end closes: no condition
mentions it, while all other names that are accepted are found behind a colon.
-/

namespace SchemaJoins

namespace Placeholder

variable {name template : String} {cs : List Char}

section Scan

theorem occurrences_colon (h : Text.isIdentifierWord cs = true) :
    occurrences none (':' :: cs) = [cs] := by
  have hcolon : ':' ∉ cs := Text.not_mem_of_isIdentifierWord (by decide) h
  rw [occurrences, occurrences_eq_nil hcolon, Text.identifierAt?_of_isIdentifierWord h]
  rfl

theorem isIdentifierWord_of_mem_find (h : name ∈ find template) :
    Text.isIdentifierWord name.toList = true := by
  obtain ⟨i, hi⟩ := mem_find_iff.mp h
  exact hi.longest.word

theorem find_colon (h : Text.isIdentifierWord name.toList = true) :
    find (":" ++ name) = [name] := by
  have htext : (":" ++ name).toList = ':' :: name.toList := String.toList_append
  rw [find, htext, occurrences_colon h, List.map_singleton, String.ofList_toList]
  rfl

end Scan

/-- A condition can mention a parameter of the name: it is an identifier from the first
character to the last, and the scan finds it behind a colon. -/
structure Addressable (name : String) : Prop where
  word : Text.isIdentifierWord name.toList = true
  found : find (":" ++ name) = [name]

theorem addressable_of_isIdentifierWord (h : Text.isIdentifierWord name.toList = true) :
    Addressable name := ⟨h, find_colon h⟩

theorem addressable_iff_find : Addressable name ↔ find (":" ++ name) = [name] := by
  refine ⟨Addressable.found, fun h => addressable_of_isIdentifierWord ?_⟩
  have hmem : name ∈ find (":" ++ name) := h ▸ List.mem_singleton_self name
  exact isIdentifierWord_of_mem_find hmem

theorem addressable_iff_exists : Addressable name ↔ ∃ template, name ∈ find template := by
  constructor
  · intro h
    exact ⟨":" ++ name, h.found ▸ List.mem_singleton_self name⟩
  · rintro ⟨template, h⟩
    exact addressable_of_isIdentifierWord (isIdentifierWord_of_mem_find h)

theorem not_addressable_lineEnd (word : String) : ¬ Addressable (word ++ "\n") := by
  intro h
  have hline : Text.isIdentifierRest '\n' = false := by decide
  refine Text.not_mem_of_isIdentifierWord hline h.word ?_
  rw [String.toList_append]
  exact List.mem_append_right _ List.mem_cons_self

theorem isIdentifier_iff_addressable : Text.isIdentifier name.toList = true ↔
    Addressable name ∨ ∃ word, name = word ++ "\n" ∧ Addressable word := by
  rw [Text.isIdentifier_iff]
  refine or_congr ⟨addressable_of_isIdentifierWord, Addressable.word⟩ ?_
  constructor
  · rintro ⟨word, hname, hword⟩
    refine ⟨String.ofList word, ?_, addressable_of_isIdentifierWord ?_⟩
    · rw [← String.toList_inj, hname, String.toList_append, String.toList_ofList]
      rfl
    · rwa [String.toList_ofList]
  · rintro ⟨word, rfl, hword⟩
    exact ⟨word.toList, String.toList_append, hword.word⟩

end Placeholder

namespace Validation

open Placeholder

/-- The test of names and the scan for placeholders agree on all texts but those that a
line end closes. -/
theorem addressable_iff_of_isIdentifier {name : String}
    (h : Text.isIdentifier name.toList = true) :
    Addressable name ↔ ∀ word, name ≠ word ++ "\n" := by
  constructor
  · rintro hname word rfl
    exact not_addressable_lineEnd word hname
  · intro hno
    obtain hname | ⟨word, hname, -⟩ := isIdentifier_iff_addressable.mp h
    · exact hname
    · exact absurd hname (hno word)

/-- A text passes for an identifier exactly if it can be mentioned, but for a line end
behind it. If the parameters of a joins mapping hold, then every parameter of every join
that is collected has a name, and that can be mentioned unless a line end closes it: then
no condition mentions it, while the name before the line end can be mentioned. -/
theorem parameters_addressable_iff (joins : List (Value × Value)) :
    (∀ name : String, (Addressable name ↔ find (":" ++ name) = [name]) ∧
      (Text.isIdentifier name.toList = true ↔
        Addressable name ∨ ∃ word, name = word ++ "\n" ∧ Addressable word)) ∧
    ∃ report, check joins = .ok report ∧ (report.holds .parameters = true →
      ∀ entries parameters, Collected joins entries parameters →
        ∃ items names, IsSequence parameters items ∧ List.Forall₂ Declares items names ∧
          ∀ name ∈ names, (Addressable name ↔ ∀ word, name ≠ word ++ "\n") ∧
            (¬ Addressable name → (∃ word, name = word ++ "\n" ∧ Addressable word) ∧
              ∀ condition, name ∉ find condition)) := by
  refine ⟨fun name => ⟨addressable_iff_find, isIdentifier_iff_addressable⟩, ?_⟩
  obtain ⟨report, hreport, -, hparameters, -⟩ := check_flags joins
  refine ⟨report, hreport, fun hholds entries parameters hcollected => ?_⟩
  obtain ⟨items, names, hitems, hnames, -⟩ := hparameters.mp hholds entries parameters hcollected
  refine ⟨items, names, hitems, hnames, fun name hname => ?_⟩
  obtain ⟨v, -, -, -, ⟨-, hidentifier⟩, -⟩ := exists_of_mem_right hnames hname
  refine ⟨addressable_iff_of_isIdentifier hidentifier, fun hno => ⟨?_, fun condition hmem => ?_⟩⟩
  · exact (isIdentifier_iff_addressable.mp hidentifier).resolve_left hno
  · exact hno (addressable_iff_exists.mpr ⟨condition, hmem⟩)

def lineEndParameter : Value :=
  .map [(.text "name", .text "p\n"), (.text "type", .text "string")]

def lineEndEntries : List (Value × Value) :=
  [(.text "parameters", .list [lineEndParameter]),
    (.text "fields", .map [(.text "f", .map [(.text "type", .text "string")])])]

def lineEndJoins : List (Value × Value) := [(.text "j", .map lineEndEntries)]

/-- Its join is found without fault, and yet no condition can mention it. -/
theorem not_addressable_lineEndParameter :
    ∃ report, check lineEndJoins = .ok report ∧ report.holds .parameters = true ∧
      Collected lineEndJoins lineEndEntries (.list [lineEndParameter]) ∧
      Declares lineEndParameter "p\n" ∧ ¬ Addressable "p\n" := by
  obtain ⟨report, hreport, -⟩ := check_flags lineEndJoins
  have hholds : (check lineEndJoins).toOption.map (·.holds .parameters) = some true := by
    decide +kernel
  rw [hreport] at hholds
  refine ⟨report, hreport, Option.some.inj hholds, ⟨.entry List.mem_cons_self, rfl⟩, ?_,
    not_addressable_lineEnd "p"⟩
  refine ⟨_, rfl, ⟨rfl, by decide⟩, ⟨"string", by decide, rfl⟩, fun w hw => ?_⟩
  cases hw

end Validation

end SchemaJoins
