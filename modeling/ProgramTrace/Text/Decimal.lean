import ProgramTrace.Text.Utf8

/-!
# `ProgramTrace.Text.Decimal` — numbers as decimal text.

`Decimal.ofNat` and `Decimal.ofInt` write a number with as many digits as it has, `Decimal.fixed` with a
given count of digits (leading zeros, the low digits only), `Decimal.padded` with at least that count.
-/

namespace ProgramTrace.Decimal

def digit (n : Nat) : Char := Char.ofNat ('0'.toNat + n % 10)

def ofNat (n : Nat) : Text := Nat.toDigits 10 n

def ofInt : Int → Text
  | .ofNat n => ofNat n
  | .negSucc n => '-' :: ofNat (n + 1)

def fixed : Nat → Nat → Text
  | 0, _ => []
  | width + 1, n => fixed width (n / 10) ++ [digit n]

def padded (width n : Nat) : Text :=
  List.replicate (width - (ofNat n).length) '0' ++ ofNat n

/-- The number that a text of digits stands for; no digits stand for none. -/
def toNat? (t : Text) : Option Nat :=
  if t ≠ [] ∧ t.all Char.isDigit then
    some (t.foldl (fun n c => n * 10 + (c.toNat - '0'.toNat)) 0)
  else none

@[simp] theorem length_fixed (width n : Nat) : (fixed width n).length = width := by
  induction width generalizing n with
  | zero => rfl
  | succ k ih => simp [fixed, ih]

end ProgramTrace.Decimal
