import Mathlib.Algebra.Group.Nat.Defs
import ProgramTrace.Session

/-!
# `ProgramTrace.Proofs.Decimal` — decimal texts are those of the core library, made of digits, and read back.
-/

namespace ProgramTrace.Decimal

/-- The decimal text of a natural number is its usual one. -/
theorem toList_toString_nat (n : Nat) : (toString n).toList = ofNat n := by
  rw [Nat.toString_eq_ofList_toDigits, String.toList_ofList, ofNat]

/-- The decimal text of an integer is its usual one. -/
theorem toList_toString_int (n : Int) : (toString n).toList = ofInt n := by
  cases n with
  | ofNat n => exact toList_toString_nat n
  | negSucc n =>
    show ("-" ++ toString (n + 1)).toList = _
    rw [String.toList_append, toList_toString_nat]
    rfl

/-- No integer has the empty text. -/
theorem ofInt_ne_nil (n : Int) : ofInt n ≠ [] := by
  cases n with
  | ofNat n => exact Nat.toDigits_ne_nil
  | negSucc n => exact List.cons_ne_nil _ _

/-! ## Digits -/

theorem isDigit_digit (n : Nat) : (digit n).isDigit := by
  have small : ∀ m < 10, (Char.ofNat ('0'.toNat + m)).isDigit := by decide
  exact small (n % 10) (Nat.mod_lt n (by decide))

theorem isDigit_of_mem_ofNat {n : Nat} {c : Char} (h : c ∈ ofNat n) : c.isDigit :=
  Nat.isDigit_of_mem_toDigits (by decide) (by decide) h

theorem isDigit_of_mem_fixed {width n : Nat} {c : Char} (h : c ∈ fixed width n) : c.isDigit := by
  induction width generalizing n with
  | zero => cases h
  | succ width ih =>
    rw [fixed, List.mem_append, List.mem_singleton] at h
    obtain h | rfl := h
    · exact ih h
    · exact isDigit_digit n

theorem isDigit_of_mem_padded {width n : Nat} {c : Char} (h : c ∈ padded width n) : c.isDigit := by
  rw [padded, List.mem_append, List.mem_replicate] at h
  obtain ⟨-, rfl⟩ | h := h
  · decide
  · exact isDigit_of_mem_ofNat h

theorem isDigit_or_of_mem_ofInt {n : Int} {c : Char} (h : c ∈ ofInt n) : c.isDigit ∨ c = '-' := by
  cases n with
  | ofNat n => exact .inl (isDigit_of_mem_ofNat h)
  | negSucc n =>
    obtain rfl | h := List.mem_cons.mp h
    · exact .inr rfl
    · exact .inl (isDigit_of_mem_ofNat h)

/-! ## Reading -/

/-- A text is read as a number exactly if it consists of digits; the number is that of the core library. -/
theorem toNat?_eq_some_iff {t : Text} {n : Nat} :
    toNat? t = some n ↔ (t ≠ [] ∧ ∀ c ∈ t, c.isDigit) ∧ Nat.ofDigitChars 10 t 0 = n := by
  have value : t.foldl (fun n c => n * 10 + (c.toNat - '0'.toNat)) 0 = Nat.ofDigitChars 10 t 0 := by
    rw [Nat.ofDigitChars_eq_foldl]
    simp only [Nat.mul_comm]
  unfold toNat?
  rw [value, ← List.all_eq_true]
  by_cases digits : t ≠ [] ∧ t.all Char.isDigit
  · rw [if_pos digits, Option.some.injEq]
    exact ⟨fun same => ⟨digits, same⟩, And.right⟩
  · rw [if_neg digits]
    exact ⟨fun none => (nomatch none), fun h => absurd h.1 digits⟩

theorem toNat_digit (n : Nat) : (digit n).toNat - '0'.toNat = n % 10 := by
  have small : ∀ m < 10, (Char.ofNat ('0'.toNat + m)).toNat - '0'.toNat = m := by decide
  exact small (n % 10) (Nat.mod_lt n (by decide))

/-- A fixed field holds the last digits of a number. -/
theorem ofDigitChars_fixed (width n : Nat) : Nat.ofDigitChars 10 (fixed width n) 0 = n % 10 ^ width := by
  induction width generalizing n with
  | zero => simp [fixed, Nat.ofDigitChars_nil, Nat.mod_one]
  | succ width ih =>
    rw [fixed, Nat.ofDigitChars_append, ih, Nat.ofDigitChars_cons, Nat.ofDigitChars_nil, toNat_digit,
      Nat.pow_succ, Nat.mul_comm _ 10, Nat.mod_mul]
    omega

/-- A number that fits a fixed field is read back. -/
theorem toNat?_fixed {width n : Nat} (pos : 0 < width) (h : n < 10 ^ width) :
    toNat? (fixed width n) = some n := by
  refine toNat?_eq_some_iff.mpr ⟨⟨?_, fun c => isDigit_of_mem_fixed⟩, ?_⟩
  · rw [← List.length_pos_iff, length_fixed]
    exact pos
  · rw [ofDigitChars_fixed, Nat.mod_eq_of_lt h]

/-- A number with leading zeros is read back. -/
theorem toNat?_padded (width n : Nat) : toNat? (padded width n) = some n := by
  refine toNat?_eq_some_iff.mpr ⟨⟨?_, fun c => isDigit_of_mem_padded⟩, ?_⟩
  · exact List.append_ne_nil_of_right_ne_nil _ Nat.toDigits_ne_nil
  · rw [padded, Nat.ofDigitChars_append, Nat.ofDigitChars_replicate_zero, Nat.mul_zero, ofNat,
      Nat.ofDigitChars_ten_toDigits]

theorem le_length_padded (width n : Nat) : width ≤ (padded width n).length := by
  rw [padded, List.length_append, List.length_replicate]
  omega

end ProgramTrace.Decimal

namespace ProgramTrace

/-- The time in a session is that of its seconds and nanoseconds, in whole milliseconds. -/
theorem Session.elapsedText_eq (s : Session) :
    s.elapsedText = (toString ((s.elapsed.seconds * 1000000000 + s.elapsed.nanos) / 1000000)).toList :=
  (Decimal.toList_toString_nat _).symm

end ProgramTrace
