import SchemaJoins.Command.Run

/-! # Calls of the validation

The arguments of a call are names of files with the option among them. What does not
start with a dash is a name, wherever it stands, and the option takes the text that is
given with it.
-/

namespace SchemaJoins.Command

section Reading

variable {s : Signature} {names rest others : List String} {given : List Given}

/-- The text is not read as an option. -/
def IsName (name : String) : Prop := name.toList.head? ≠ some '-'

instance (name : String) : Decidable (IsName name) :=
  inferInstanceAs (Decidable (name.toList.head? ≠ some '-'))

theorem IsName.isOption {name : String} (h : IsName name) : Signature.isOption name = false := by
  unfold Signature.isOption
  split
  · rename_i hname
    exact absurd (by rw [hname]; rfl) h
  · rfl

theorem IsName.ne_dashes {name : String} (h : IsName name) : (name == "--") = false := by
  refine beq_false_of_ne ?_
  rintro rfl
  exact h rfl

theorem read_append (hnames : ∀ name ∈ names, IsName name)
    (h : s.read true rest = .ok (given, others)) :
    s.read true (names ++ rest) = .ok (given, names ++ others) := by
  induction names with
  | nil => exact h
  | cons name names ih =>
    obtain ⟨hname, hnames⟩ := List.forall_mem_cons.mp hnames
    rw [List.cons_append, Signature.read.eq_def]
    simp only [hname.ne_dashes, hname.isOption, Bool.false_eq_true, if_false, if_true, ih hnames]
    rfl

theorem read_names (hnames : ∀ name ∈ names, IsName name) :
    s.read true names = .ok ([], names) := by
  have hnone : s.read true [] = .ok ([], []) := by rw [Signature.read]
  have hread := read_append hnames hnone
  rwa [List.append_nil] at hread

end Reading

namespace Validate

variable {references : Option String} {text : String} {before option after : List String}
  {files : Files.Tree}

/-- The ways to give a text of references, or none, among the arguments. -/
inductive Gives : Option String → List String → Prop where
  | nothing : Gives none []
  | apart (text : String) : Gives (some text) ["--test_references", text]
  | joined (text : String) : Gives (some text) ["--test_references=" ++ text]

def given (references : Option String) : List Given :=
  references.toList.map (⟨"test_references", ·⟩)

theorem readOption_apart (text : String) :
    signature.readOption "--test_references" (some text) = .ok (given (some text), true) := by
  rfl

theorem splitValue_joined (text : String) :
    Signature.splitValue ("--test_references=" ++ text) = ("--test_references", some text) := by
  have hname : ("--test_references=" ++ text).toList.takeWhile (· != '=') =
      "--test_references".toList := by
    rw [String.toList_append]
    rfl
  have hbehind : ("--test_references=" ++ text).toList.drop "--test_references".toList.length =
      '=' :: text.toList := by
    rw [String.toList_append]
    rfl
  unfold Signature.splitValue
  dsimp only
  rw [hname, hbehind]
  simp only [String.ofList_toList]

theorem readOption_joined (text : String) (next : Option String) :
    signature.readOption ("--test_references=" ++ text) next =
      .ok (given (some text), false) := by
  unfold Signature.readOption
  rw [splitValue_joined]
  rfl

theorem isOption_joined (text : String) :
    Signature.isOption ("--test_references=" ++ text) = true := by
  unfold Signature.isOption
  rw [String.toList_append]
  rfl

theorem ne_dashes_joined (text : String) : ("--test_references=" ++ text == "--") = false := by
  refine beq_false_of_ne fun h => ?_
  have hlength := congrArg (fun t => t.toList.length) h
  simp [String.toList_append] at hlength

theorem read_option (hgives : Gives references option) (hafter : ∀ name ∈ after, IsName name) :
    signature.read true (option ++ after) = .ok (given references, after) := by
  cases hgives with
  | nothing => exact read_names hafter
  | apart text =>
    rw [List.cons_append, List.singleton_append, Signature.read.eq_def]
    simp only [readOption_apart, read_names hafter]
    rfl
  | joined text =>
    rw [List.singleton_append, Signature.read.eq_def]
    simp only [ne_dashes_joined, isOption_joined, readOption_joined]
    cases after with
    | nil => rfl
    | cons name after =>
      simp only [read_names hafter]
      rfl

theorem ofArguments_given (references : Option String) (names : List String) :
    Request.ofArguments ⟨given references, names⟩ =
      ⟨names.map .ofText, references.filter (!·.isEmpty)⟩ := by
  cases references <;> rfl

theorem request?_given (references : Option String) (names : List String) :
    Arguments.request? ⟨given references, names⟩ = none := by
  cases references <;> rfl

theorem fault?_given (references : Option String) (names : List String) :
    Arguments.fault? ⟨given references, names⟩ files signature = none := by
  cases references <;> rfl

def entry : Entry where
  name := "validate"
  help := Help.validate
  signature := signature
  run := fun a =>
    let r := Request.ofArguments a
    if r.isEmpty then .error .nothingToValidate else .ok (run r)

theorem start_validate (arguments : List String) :
    start ("validate" :: arguments) = entry.start arguments := by
  have hread : programSignature.read false ("validate" :: arguments) =
      .ok ([], "validate" :: arguments) := by
    rw [Signature.read.eq_def]
    rfl
  unfold start
  simp only [hread]
  rfl

theorem isEmpty_request {names : List String}
    (h : names ≠ [] ∨ ∃ text, references = some text ∧ text ≠ "") :
    Request.isEmpty ⟨names.map .ofText, references.filter (!·.isEmpty)⟩ = false := by
  refine Bool.and_eq_false_iff.mpr ?_
  obtain h | ⟨text, rfl, htext⟩ := h
  · exact .inl (List.isEmpty_eq_false_iff.mpr fun hnil => h (List.map_eq_nil_iff.mp hnil))
  · exact .inr (by simp [htext])

theorem outcome_validate (hgives : Gives references option)
    (hnames : ∀ name ∈ before ++ after, IsName name)
    (h : before ++ after ≠ [] ∨ ∃ text, references = some text ∧ text ≠ "") :
    outcome ("validate" :: (before ++ (option ++ after))) files =
      (run ⟨(before ++ after).map .ofText, references.filter (!·.isEmpty)⟩).run files := by
  have hread : signature.read true (before ++ (option ++ after)) =
      .ok (given references, before ++ after) :=
    read_append (fun name h => hnames name (List.mem_append_left after h))
      (read_option hgives fun name h => hnames name (List.mem_append_right before h))
  have hrun : entry.run ⟨given references, before ++ after⟩ =
      .ok (run ⟨(before ++ after).map .ofText, references.filter (!·.isEmpty)⟩) := by
    unfold entry
    dsimp only
    rw [ofArguments_given, isEmpty_request h]
    rfl
  have hentry : entry.signature = signature := rfl
  rw [outcome, start_validate, Entry.start]
  simp only [hentry, hread, request?_given, fault?_given, hrun]
  rfl

end Validate

end SchemaJoins.Command
