import Mathlib.Data.List.Forall2
import SchemaJoins.Command.Session

/-! # What the steps of a command do

Two rules for each step. What a step does is said exactly where it cannot fail: its result,
the lines that it prints and the warnings that it writes. Where it may fail, what holds of
its result is said for the case that it has one, and that no failure passes for success.
-/

namespace SchemaJoins.Command

variable {α β : Type} {files : Files.Tree}

def Step.at (x : Step α) (s : Session) : Except Stop α × Session := (ExceptT.run x).run s

theorem Step.at_bind {x : Step α} {a : α} {s s' : Session} (h : x.at s = (.ok a, s'))
    (next : α → Step β) : (x >>= next).at s = (next a).at s' := by
  unfold Step.at at h ⊢
  rw [ExceptT.run_bind, StateT.run_bind, h]
  rfl

theorem Step.at_bind_of_error {x : Step α} {stop : Stop} {s s' : Session}
    (h : x.at s = (.error stop, s')) (next : α → Step β) :
    (x >>= next).at s = (.error stop, s') := by
  unfold Step.at at h ⊢
  rw [ExceptT.run_bind, StateT.run_bind, h]
  rfl

theorem Step.at_guarded (x : Logged α) (s : Session) : (Step.guarded x).at s =
    (.ok x.result, { s with warnings := s.warnings ++ x.warnings }) := rfl

section Success

/-- On these files the step ends with a result, and it only prints lines and writes warnings. -/
def Step.Does (files : Files.Tree) (x : Step α) (a : α) (lines warnings : List String) : Prop :=
  ∀ s : Session, s.files = files → x.at s =
    (.ok a, { s with lines := s.lines ++ lines, warnings := s.warnings ++ warnings })

namespace Step.Does

variable {x : Step α} {a : α} {lines warnings : List String}

theorem pure (a : α) : Does files (Pure.pure a) a [] [] := by
  rintro ⟨_, lines, warnings⟩ -
  simp only [List.append_nil]
  rfl

theorem bind {next : α → Step β} {b : β} {more others : List String}
    (hx : Does files x a lines warnings) (hnext : Does files (next a) b more others) :
    Does files (x >>= next) b (lines ++ more) (warnings ++ others) := by
  intro s hs
  have hmore := hnext { s with lines := s.lines ++ lines, warnings := s.warnings ++ warnings } hs
  refine (Step.at_bind (hx s hs) next).trans (hmore.trans ?_)
  simp only [List.append_assoc]

theorem orFail {result : Except Fault α} (h : result = .ok a) :
    Does files (Step.orFail result) a [] [] := h ▸ pure a

theorem write (lines : List String) : Does files (Step.write lines) () lines [] := by
  rintro ⟨_, _, warnings⟩ -
  simp only [List.append_nil]
  rfl

theorem writeRendered {rendered : Except Fault (List Console.Line)} {lines : List Console.Line}
    (h : rendered = .ok lines) :
    Does files (Step.writeRendered rendered) () (lines.map String.ofList) [] :=
  (orFail h).bind (write _)

theorem readFiles : Does files Step.files files [] [] := by
  rintro ⟨_, lines, warnings⟩ rfl
  simp only [List.append_nil]
  rfl

theorem logged {x : Logged α} (h : x.result = .ok a) :
    Does files (Step.logged x) a [] x.warnings := by
  rintro ⟨_, lines, warnings⟩ -
  rw [Step.logged, Step.at_bind (Step.at_guarded x _), h]
  simp only [List.append_nil]
  rfl

theorem mapM {f : α → Step β} {xs : List α} {ys : List (β × List String)}
    (h : List.Forall₂ (fun x y => Does files (f x) y.1 y.2 []) xs ys) :
    Does files (xs.mapM f) (ys.map (·.1)) (ys.flatMap (·.2)) [] := by
  induction h with
  | nil => exact pure []
  | @cons x y xs ys hx _ ih =>
    have hrest : Does files (xs.mapM f >>= fun zs => Pure.pure (y.1 :: zs))
        (y.1 :: ys.map (·.1)) (ys.flatMap (·.2) ++ []) [] := ih.bind (pure _)
    rw [List.append_nil] at hrest
    rw [List.mapM_cons]
    exact hx.bind hrest

end Step.Does

def Step.Succeeds (files : Files.Tree) (x : Step α) (a : α) : Prop :=
  ∃ lines warnings, Does files x a lines warnings

namespace Step.Succeeds

variable {x : Step α} {a : α}

theorem bind {next : α → Step β} {b : β} (hx : Succeeds files x a)
    (hnext : Succeeds files (next a) b) : Succeeds files (x >>= next) b := by
  obtain ⟨_, _, hx⟩ := hx
  obtain ⟨_, _, hnext⟩ := hnext
  exact ⟨_, _, hx.bind hnext⟩

theorem pure (a : α) : Succeeds files (Pure.pure a) a := ⟨_, _, Does.pure a⟩

theorem print {markup : String} (h : ∃ lines, Console.paragraph markup = .ok lines) :
    Succeeds files (Step.print markup) () := by
  obtain ⟨lines, hlines⟩ := h
  exact ⟨_, _, Does.writeRendered hlines⟩

theorem mapM {f : α → Step β} {xs : List α} {ys : List β}
    (h : List.Forall₂ (fun x y => Succeeds files (f x) y) xs ys) :
    Succeeds files (xs.mapM f) ys := by
  induction h with
  | nil => exact pure []
  | cons hx _ ih =>
    rw [List.mapM_cons]
    exact hx.bind (ih.bind (pure _))

theorem forM {f : α → Step Unit} {xs : List α} (h : ∀ x ∈ xs, Succeeds files (f x) ()) :
    Succeeds files (xs.forM f) () := by
  induction xs with
  | nil => exact pure ()
  | cons x xs ih =>
    obtain ⟨hx, hxs⟩ := List.forall_mem_cons.mp h
    exact hx.bind (ih hxs)

end Step.Succeeds

end Success

section Outcomes

/-- On these files the step leaves them as they are and ends with such a result, or it ends
the command with a fault or with an exit code other than zero. -/
structure Step.Yields (files : Files.Tree) (x : Step α) (P : α → Prop) : Prop where
  ends : ∀ s : Session, s.files = files →
    match x.at s with
    | (.ok a, s') => s'.files = files ∧ P a
    | (.error (.exit code), _) => code ≠ 0
    | (.error (.fault _), _) => True

namespace Step.Yields

variable {x : Step α} {P Q : α → Prop}

theorem pure {a : α} (h : P a) : Yields files (Pure.pure a) P := ⟨fun _ hs => ⟨hs, h⟩⟩

theorem bind {next : α → Step β} {R : β → Prop} (hx : Yields files x P)
    (hnext : ∀ a, P a → Yields files (next a) R) : Yields files (x >>= next) R := by
  refine ⟨fun s hs => ?_⟩
  have hfirst := hx.ends s hs
  rcases hat : x.at s with ⟨stop | a, s'⟩
  · rw [hat] at hfirst
    rw [Step.at_bind_of_error hat]
    cases stop with
    | exit => exact hfirst
    | fault => trivial
  · rw [hat] at hfirst
    rw [Step.at_bind hat]
    exact (hnext a hfirst.2).ends s' hfirst.1

theorem exit {code : Nat} (h : code ≠ 0) : Yields files (Step.exit code) P := ⟨fun _ _ => h⟩

theorem fail (f : Fault) : Yields files (Step.fail f) P := ⟨fun _ _ => trivial⟩

theorem orFail (result : Except Fault α) :
    Yields files (Step.orFail result) fun a => result = .ok a := by
  cases result with
  | ok a => exact pure rfl
  | error f => exact fail f

theorem write (lines : List String) : Yields files (Step.write lines) fun _ => True :=
  ⟨fun _ hs => ⟨hs, trivial⟩⟩

theorem print (markup : String) : Yields files (Step.print markup) fun _ => True :=
  (orFail _).bind fun _ _ => write _

theorem printTable (t : Console.Table) : Yields files (Step.printTable t) fun _ => True :=
  (orFail _).bind fun _ _ => write _

theorem readFiles : Yields files Step.files (· = files) := ⟨fun _ hs => ⟨hs, hs⟩⟩

theorem logged (x : Logged α) : Yields files (Step.logged x) fun a => x.result = .ok a := by
  refine ⟨fun s hs => ?_⟩
  rw [Step.logged, Step.at_bind (Step.at_guarded x s)]
  exact (orFail x.result).ends _ hs

theorem mapM {f : α → Step β} {R : α → β → Prop} (h : ∀ x, Yields files (f x) (R x))
    (xs : List α) : Yields files (xs.mapM f) (List.Forall₂ R xs) := by
  induction xs with
  | nil => exact pure .nil
  | cons x xs ih =>
    rw [List.mapM_cons]
    exact (h x).bind fun _ hy => ih.bind fun _ hys => pure (.cons hy hys)

theorem forM {f : α → Step Unit} (h : ∀ x, Yields files (f x) fun _ => True) (xs : List α) :
    Yields files (xs.forM f) fun _ => True := by
  induction xs with
  | nil => exact pure trivial
  | cons x xs ih => exact (h x).bind fun _ _ => ih

end Step.Yields

variable {x : Step Unit}

theorem Step.run_eq (x : Step Unit) (files : Files.Tree) : x.run files =
    match x.at { files } with
    | (.ok (), s) => ⟨0, none, s.lines, s.warnings, s.files⟩
    | (.error (.exit code), s) => ⟨code, none, s.lines, s.warnings, s.files⟩
    | (.error (.fault f), s) => ⟨1, some f, s.lines, s.warnings, s.files⟩ := by
  have hrun : (ExceptT.run x).run { files } = x.at { files } := rfl
  unfold Step.run
  rw [hrun]
  rcases x.at { files } with ⟨(code | f) | _, s⟩ <;> rfl

theorem Step.Yields.of_exitCode_eq_zero {P : Unit → Prop} (h : Step.Yields files x P)
    (hzero : (x.run files).exitCode = 0) : P () := by
  have hends := h.ends { files } rfl
  rw [Step.run_eq] at hzero
  rcases hat : x.at { files } with ⟨(code | f) | _, s⟩
  · rw [hat] at hends hzero
    exact absurd hzero hends
  · rw [hat] at hzero
    exact absurd hzero Nat.one_ne_zero
  · rw [hat] at hends
    exact hends.2

theorem Step.Does.run_eq {lines warnings : List String}
    (h : Step.Does files x () lines warnings) :
    x.run files = ⟨0, none, lines, warnings, files⟩ := by
  rw [Step.run_eq, h { files } rfl]
  rfl

end Outcomes

end SchemaJoins.Command
