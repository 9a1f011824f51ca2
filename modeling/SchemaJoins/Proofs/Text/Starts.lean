import Mathlib.Data.List.Infix

/-! # How texts start

Lines that a report writes for different reasons start with words of their own, so
that none of them is taken for another.
-/

namespace SchemaJoins

def Starts (start text : String) : Prop := start.toList <+: text.toList

theorem starts_append (start rest : String) : Starts start (start ++ rest) := by
  rw [Starts, String.toList_append]
  exact List.prefix_append _ _

instance (start text : String) : Decidable (Starts start text) :=
  inferInstanceAs (Decidable (start.toList <+: text.toList))

theorem Starts.not_starts {start other text : String} (h : Starts start text)
    (hstart : ¬ Starts start other) (hother : ¬ Starts other start) : ¬ Starts other text := by
  intro ho
  exact (List.prefix_or_prefix_of_prefix h ho).elim hstart hother

end SchemaJoins
