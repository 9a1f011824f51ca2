/-! # Decimal digits of all scripts

Every script that has decimal digits has them in a row, from zero to nine.
-/

namespace SchemaJoins.Text

/-- The zero of each row. -/
def digitZeros : List Nat := [
  0x30, 0x660, 0x6F0, 0x7C0, 0x966, 0x9E6, 0xA66, 0xAE6, 0xB66, 0xBE6, 0xC66, 0xCE6, 0xD66,
  0xDE6, 0xE50, 0xED0, 0xF20, 0x1040, 0x1090, 0x17E0, 0x1810, 0x1946, 0x19D0, 0x1A80, 0x1A90,
  0x1B50, 0x1BB0, 0x1C40, 0x1C50, 0xA620, 0xA8D0, 0xA900, 0xA9D0, 0xA9F0, 0xAA50, 0xABF0, 0xFF10,
  0x104A0, 0x10D30, 0x11066, 0x110F0, 0x11136, 0x111D0, 0x112F0, 0x11450, 0x114D0, 0x11650,
  0x116C0, 0x11730, 0x118E0, 0x11950, 0x11C50, 0x11D50, 0x11DA0, 0x16A60, 0x16AC0, 0x16B50,
  0x1D7CE, 0x1D7D8, 0x1D7E2, 0x1D7EC, 0x1D7F6, 0x1E140, 0x1E2F0, 0x1E950, 0x1FBF0]

def digitValue? (c : Char) : Option Nat :=
  let n := c.toNat
  if n < 128 then
    if '0' ≤ c ∧ c ≤ '9' then some (n - 48) else none
  else
    (digitZeros.find? fun z => decide (z ≤ n) && decide (n < z + 10)).map (n - ·)

def isDigit (c : Char) : Bool := (digitValue? c).isSome

theorem toNat_of_isDigit {c : Char} (h : c.isDigit = true) : 48 ≤ c.toNat ∧ c.toNat ≤ 57 := by
  rw [Char.isDigit, Bool.and_eq_true, decide_eq_true_eq, decide_eq_true_eq] at h
  exact h

theorem digitValue?_of_isDigit {c : Char} (h : c.isDigit = true) :
    digitValue? c = some (c.toNat - 48) := by
  have hc := toNat_of_isDigit h
  have hascii : c.toNat < 128 := by omega
  have hrange : '0' ≤ c ∧ c ≤ '9' := hc
  simp [digitValue?, hascii, hrange]

theorem isDigit_of_isDigit {c : Char} (h : c.isDigit = true) : isDigit c = true := by
  rw [isDigit, digitValue?_of_isDigit h, Option.isSome_some]

def digitsValue (cs : List Char) : Nat :=
  cs.foldl (fun acc c => acc * 10 + (digitValue? c).getD 0) 0

/-- On ASCII digits the value is the one that they write in base ten. -/
theorem digitsValue_eq_ofDigitChars {cs : List Char} (h : ∀ c ∈ cs, c.isDigit = true) :
    digitsValue cs = Nat.ofDigitChars 10 cs 0 := by
  suffices hacc : ∀ acc : Nat, cs.foldl (fun acc c => acc * 10 + (digitValue? c).getD 0) acc =
      Nat.ofDigitChars 10 cs acc from hacc 0
  induction cs with
  | nil => exact fun _ => rfl
  | cons c cs ih =>
    obtain ⟨hc, hcs⟩ := List.forall_mem_cons.mp h
    intro acc
    rw [List.foldl_cons, digitValue?_of_isDigit hc, ih hcs, Option.getD_some, Nat.mul_comm]
    rfl

/-- More digits than these are not turned into an integer. -/
def digitLimit : Nat := 4300

end SchemaJoins.Text
