import ProgramTrace.Proofs.Time.Stamp
import ProgramTrace.Proofs.Utf8

/-!
# `ProgramTrace.Proofs.Time.Order` — time stamps sort as the instants that they show.

From the year 0 to the year 9999 a stamp is a row of fixed fields, the weightier ones first.  Fixed fields of one width
compare as their numbers do (`Decimal.fixed_lt_iff`), so two stamps compare as their moments do, field by field
(`Instant.stamp_lt_iff`).  Moments of the calendar compare as their days do, and within a day as the seconds
(`Instant.before_moment_iff`); a leap second, shown as second 60, comes between second 59 and the next minute.

* **`Session.startText_sorts`**: of two sessions in these years one began earlier exactly if the bytes of its stamp come
  first in the order of byte strings.
-/

namespace ProgramTrace

open Calendar (Date)
open Decimal (fixed digit)

/-! ## Texts in order -/

/-- Lists with front parts of one length compare by these, and by what follows if they are the same. -/
theorem append_lt_append_iff {α : Type} [LT α] {a b c d : List α} (h : a.length = b.length) :
    a ++ c < b ++ d ↔ a < b ∨ a = b ∧ c < d := by
  induction a generalizing b with
  | nil =>
    obtain rfl := List.length_eq_zero_iff.mp h.symm
    simp
  | cons x xs ih =>
    cases b with
    | nil => cases h
    | cons y ys =>
      rw [List.cons_append, List.cons_append, List.cons_lt_cons_iff, List.cons_lt_cons_iff, ih (Nat.succ.inj h),
        List.cons.injEq, and_or_left, or_assoc, and_assoc]

/-- ASCII texts are in the order of their bytes. -/
theorem toUtf8_lt_iff {s t : Text} (hs : ∀ c ∈ s, c.toNat < 0x80) (ht : ∀ c ∈ t, c.toNat < 0x80) :
    s.toUtf8 < t.toUtf8 ↔ s < t := by
  induction s generalizing t with
  | nil =>
    cases t with
    | nil => simp
    | cons d ds => simp [toUtf8_cons_of_ascii (ht d (List.mem_cons_self ..))]
  | cons c cs ih =>
    have hc := hs c (List.mem_cons_self ..)
    cases t with
    | nil => simp
    | cons d ds =>
      have hd := ht d (List.mem_cons_self ..)
      have number (x : Char) (h : x.toNat < 0x80) : (UInt8.ofNat x.toNat).toNat = x.toNat := by
        rw [UInt8.toNat_ofNat', Nat.mod_eq_of_lt (by omega)]
      have lt : UInt8.ofNat c.toNat < UInt8.ofNat d.toNat ↔ c < d := by
        rw [UInt8.lt_iff_toNat_lt, number c hc, number d hd]
        rfl
      have eq : UInt8.ofNat c.toNat = UInt8.ofNat d.toNat ↔ c = d := by
        rw [← UInt8.toNat_inj, number c hc, number d hd, Char.toNat_inj]
      rw [toUtf8_cons_of_ascii hc, toUtf8_cons_of_ascii hd, List.cons_lt_cons_iff, List.cons_lt_cons_iff, lt, eq,
        ih (fun x h => hs x (List.mem_cons_of_mem _ h)) fun x h => ht x (List.mem_cons_of_mem _ h)]

namespace Decimal

theorem digit_lt_iff {m n : Nat} : digit m < digit n ↔ m % 10 < n % 10 := by
  have small : ∀ m < 10, ∀ n < 10, Char.ofNat ('0'.toNat + m) < Char.ofNat ('0'.toNat + n) ↔ m < n := by decide
  exact small (m % 10) (Nat.mod_lt m (by decide)) (n % 10) (Nat.mod_lt n (by decide))

theorem fixed_inj {width m n : Nat} (hm : m < 10 ^ width) (hn : n < 10 ^ width) :
    fixed width m = fixed width n ↔ m = n := by
  refine ⟨fun same => ?_, fun same => by rw [same]⟩
  have value := congrArg (Nat.ofDigitChars 10 · 0) same
  simpa only [ofDigitChars_fixed, Nat.mod_eq_of_lt hm, Nat.mod_eq_of_lt hn] using value

/-- **Fixed fields of one width are in the order of their numbers.** -/
theorem fixed_lt_iff {width m n : Nat} (hm : m < 10 ^ width) (hn : n < 10 ^ width) :
    fixed width m < fixed width n ↔ m < n := by
  induction width generalizing m n with
  | zero =>
    rw [Nat.pow_zero] at hm hn
    simp only [fixed]
    exact iff_of_false (List.lt_irrefl []) (by omega)
  | succ width ih =>
    rw [Nat.pow_succ] at hm hn
    have hm' : m / 10 < 10 ^ width := by omega
    have hn' : n / 10 < 10 ^ width := by omega
    -- All digits but the last decide, and the last one if they are the same.
    rw [fixed, fixed, append_lt_append_iff (by simp only [length_fixed]), ih hm' hn', fixed_inj hm' hn',
      List.cons_lt_cons_iff, digit_lt_iff]
    have last : ¬([] : Text) < [] := List.lt_irrefl []
    simp only [last, and_false, or_false]
    omega

/-- Texts that begin with fixed fields of one width compare by the numbers first. -/
theorem fixed_append_lt_iff {width m n : Nat} {s t : Text} (hm : m < 10 ^ width) (hn : n < 10 ^ width) :
    fixed width m ++ s < fixed width n ++ t ↔ m < n ∨ m = n ∧ s < t := by
  rw [append_lt_append_iff (by simp only [length_fixed]), fixed_lt_iff hm hn, fixed_inj hm hn]

end Decimal

/-! ## Moments in order -/

/-- A moment comes before another by its date or its time of day, the first part in which they differ. -/
def Moment.Before (m n : Moment) : Prop :=
  m.date.Before n.date ∨ m.date = n.date ∧ (m.hour < n.hour ∨ m.hour = n.hour ∧
    (m.minute < n.minute ∨ m.minute = n.minute ∧ m.second < n.second))

namespace Instant

variable {i j : Instant}

/-- An instant lies in an earlier second than another, where a leap second follows the second that it lengthens. -/
def Before (i j : Instant) : Prop :=
  i.seconds < j.seconds ∨ i.seconds = j.seconds ∧ i.isLeap = false ∧ j.isLeap = true

/-- Within a day moments are in the order of the seconds, and of leap seconds after those that they lengthen. -/
theorem clock_lt_iff (hi : i.Valid) (hj : j.Valid) :
    (i.moment.hour < j.moment.hour ∨ i.moment.hour = j.moment.hour ∧ (i.moment.minute < j.moment.minute ∨
      i.moment.minute = j.moment.minute ∧ i.moment.second < j.moment.second)) ↔
    i.secondOfDay < j.secondOfDay ∨ i.secondOfDay = j.secondOfDay ∧ i.isLeap = false ∧ j.isLeap = true := by
  -- What is shown is the number of the second in its minute, and one more in a leap second, which is at its end.
  have shown (k : Instant) (h : k.Valid) : k.moment.second = k.secondOfDay % 60 ∧ k.isLeap = false ∨
      k.moment.second = 60 ∧ k.secondOfDay % 60 = 59 ∧ k.isLeap = true := by
    have inMinute := k.secondOfDay_mod
    cases leap : k.isLeap with
    | false => exact .inl ⟨by simp [moment, leap], rfl⟩
    | true =>
      have last := h.leap leap
      exact .inr ⟨(second_moment_iff h).mpr leap, by omega, rfl⟩
  have hours (k : Instant) : k.moment.hour = k.secondOfDay / 3600 := rfl
  have minutes (k : Instant) : k.moment.minute = k.secondOfDay / 60 % 60 := rfl
  rw [hours, hours, minutes, minutes]
  obtain ⟨second, leap⟩ | ⟨second, last, leap⟩ := shown i hi
  · obtain ⟨second', leap'⟩ | ⟨second', last', leap'⟩ := shown j hj
    · simp only [second, second', leap, leap', reduceCtorEq, and_false, or_false]
      omega
    · simp only [second, second', leap, leap', and_true]
      omega
  · obtain ⟨second', leap'⟩ | ⟨second', last', leap'⟩ := shown j hj
    · simp only [second, second', leap, leap', reduceCtorEq, and_false, or_false]
      omega
    · simp only [second, second', leap, leap', reduceCtorEq, false_and, and_false, or_false]
      omega

/-- **Moments are in the order of their instants.** -/
theorem before_moment_iff (hi : i.Valid) (hj : j.Valid) : i.moment.Before j.moment ↔ i.Before j := by
  have days : i.moment.date.Before j.moment.date ↔ i.seconds / 86400 < j.seconds / 86400 := Date.before_ofDay_iff
  have sameDay : i.moment.date = j.moment.date ↔ i.seconds / 86400 = j.seconds / 86400 := Date.ofDay_inj
  have inDay (k : Instant) : (k.secondOfDay : Int) = k.seconds % 86400 := by
    unfold secondOfDay secondsPerDay
    omega
  have dayI := inDay i
  have dayJ := inDay j
  unfold Moment.Before Before
  rw [days, sameDay, clock_lt_iff hi hj]
  by_cases later : i.isLeap = false ∧ j.isLeap = true
  · simp only [eq_true later, and_true]
    omega
  · simp only [eq_false later, and_false, or_false]
    omega

/-! ## Stamps in order -/

/-- The instants of the years that are shown with four digits. -/
def HasPlainYear (i : Instant) : Prop := 0 ≤ i.date.year ∧ i.date.year ≤ 9999

instance (i : Instant) : Decidable i.HasPlainYear := inferInstanceAs (Decidable (_ ∧ _))

/-- A stamp in these years is a row of fixed fields. -/
theorem stamp_eq (h : i.HasPlainYear) : i.stamp =
    fixed 4 i.moment.date.year.toNat ++ '-' :: (fixed 2 i.moment.date.month ++ '-' :: (fixed 2 i.moment.date.day ++
      'T' :: (fixed 2 i.moment.hour ++ ':' :: (fixed 2 i.moment.minute ++
        ':' :: (fixed 2 i.moment.second ++ ['Z']))))) := by
  have year : yearText i.date.year = fixed 4 i.date.year.toNat := if_pos h
  unfold stamp dateText timeText
  rw [year]
  simp only [List.append_assoc, List.cons_append]
  rfl

/-- The fields of a stamp in these years are wide enough for what they show. -/
theorem fits (h : i.HasPlainYear) :
    i.moment.date.year.toNat < 10 ^ 4 ∧ i.moment.date.month < 10 ^ 2 ∧ i.moment.date.day < 10 ^ 2 ∧
      i.moment.hour < 10 ^ 2 ∧ i.moment.minute < 10 ^ 2 ∧ i.moment.second < 10 ^ 2 := by
  obtain ⟨⟨-, month, -, day⟩, hour, minute, second⟩ := i.valid_moment
  have inMonth := (Calendar.monthLength_bounds i.moment.date.year i.moment.date.month).2
  have year : i.moment.date.year ≤ 9999 := h.2
  omega

theorem cons_lt_cons {c : Char} {s t : Text} : c :: s < c :: t ↔ s < t := by
  rw [List.cons_lt_cons_iff]
  simp

/-- **Stamps in these years are in the order of the moments that they show.** -/
theorem stamp_lt_iff (hi : i.HasPlainYear) (hj : j.HasPlainYear) : i.stamp < j.stamp ↔ i.moment.Before j.moment := by
  obtain ⟨year, month, day, hour, minute, second⟩ := fits hi
  obtain ⟨year', month', day', hour', minute', second'⟩ := fits hj
  have years : i.moment.date.year.toNat < j.moment.date.year.toNat ↔ i.moment.date.year < j.moment.date.year := by
    have first : 0 ≤ i.moment.date.year := hi.1
    omega
  have sameYear : i.moment.date.year.toNat = j.moment.date.year.toNat ↔ i.moment.date.year = j.moment.date.year := by
    have first : 0 ≤ i.moment.date.year := hi.1
    have first' : 0 ≤ j.moment.date.year := hj.1
    omega
  have last : ¬['Z'] < ['Z'] := List.lt_irrefl _
  rw [stamp_eq hi, stamp_eq hj, Decimal.fixed_append_lt_iff year year', cons_lt_cons,
    Decimal.fixed_append_lt_iff month month', cons_lt_cons, Decimal.fixed_append_lt_iff day day', cons_lt_cons,
    Decimal.fixed_append_lt_iff hour hour', cons_lt_cons, Decimal.fixed_append_lt_iff minute minute', cons_lt_cons,
    Decimal.fixed_append_lt_iff second second', years, sameYear]
  unfold Moment.Before Date.Before
  simp only [Date.eq_iff, last, and_false, or_false, and_or_left, or_assoc, and_assoc]

theorem ascii_of_mem_stamp {c : Char} (h : c ∈ i.stamp) : c.toNat < 0x80 := by
  have separators : ∀ d ∈ ['+', '-', ':', 'T', 'Z'], d.toNat < 0x80 := by simp
  obtain digit | separator := isDigit_or_of_mem_stamp h
  · exact Nat.lt_of_le_of_lt (Char.isDigit_iff_toNat.mp digit).2 (by decide)
  · exact separators c separator

end Instant

/-- **Stamps from the year 0 to the year 9999 sort in time.** -/
theorem Session.startText_sorts {s s' : Session} (clock : s.startedAt.Valid) (clock' : s'.startedAt.Valid)
    (plain : s.startedAt.HasPlainYear) (plain' : s'.startedAt.HasPlainYear) :
    (s.startedAt.Before s'.startedAt ↔ s.startText.toUtf8 < s'.startText.toUtf8) ∧
      (s.startText = s'.startText ↔
        s.startedAt.seconds = s'.startedAt.seconds ∧ s.startedAt.isLeap = s'.startedAt.isLeap) := by
  refine ⟨?_, Instant.stamp_inj clock clock'⟩
  rw [← Instant.before_moment_iff clock clock', ← Instant.stamp_lt_iff plain plain']
  exact (toUtf8_lt_iff (fun _ => Instant.ascii_of_mem_stamp) fun _ => Instant.ascii_of_mem_stamp).symm

/-- The last second of 2016, the leap second after it and the first second of 2017 sort in this order. -/
theorem Session.startText_sorts_around_leap_second :
    let s := begun ⟨1483228799, 999999999⟩
    let leap := begun ⟨1483228799, 1000000000⟩
    let s' := begun ⟨1483228800, 0⟩
    (s.startedAt.Valid ∧ leap.startedAt.Valid ∧ s'.startedAt.Valid) ∧
      (s.startedAt.HasPlainYear ∧ leap.startedAt.HasPlainYear ∧ s'.startedAt.HasPlainYear) ∧
      s.startText.toUtf8 < leap.startText.toUtf8 ∧ leap.startText.toUtf8 < s'.startText.toUtf8 := by
  intro s leap s'
  have clock : s.startedAt.Valid ∧ leap.startedAt.Valid ∧ s'.startedAt.Valid := by decide
  have plain : s.startedAt.HasPlainYear ∧ leap.startedAt.HasPlainYear ∧ s'.startedAt.HasPlainYear := by decide
  refine ⟨clock, plain, ?_, ?_⟩
  · exact (startText_sorts clock.1 clock.2.1 plain.1 plain.2.1).1.mp (.inr ⟨rfl, by decide, by decide⟩)
  · exact (startText_sorts clock.2.1 clock.2.2 plain.2.1 plain.2.2).1.mp (.inl (by decide))

end ProgramTrace
