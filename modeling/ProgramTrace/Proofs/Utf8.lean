import ProgramTrace.Text.Utf8

/-!
# `ProgramTrace.Proofs.Utf8` — the scan reads exactly what the encoding writes.

`Text.toUtf8` is the encoding, character by character; `Utf8.scan` is a machine over single bytes.  Two
facts hold the machine to the encoding: it reads an encoded character as that character, whatever follows
(`scan_utf8EncodeChar`), and where it finds no ill-formed part, an encoded character stands at the front
(`exists_utf8EncodeChar_append`).  So `Bytes.toText?` is the inverse of `Text.toUtf8`, on just the byte
strings that have one (`toText?_eq_some_iff`).
-/

namespace ProgramTrace

namespace Utf8

/-! ## First bytes -/

/-- A first byte of two: the next byte is unrestricted. -/
theorem opening_two {b : UInt8} (low : 0xC2 ≤ b.toNat) (high : b.toNat < 0xE0) :
    opening b = ([], some ⟨b.toNat - 0xC0, 1, 0x80, 0xBF⟩) := by
  unfold opening
  simp only [UInt8.lt_iff_toNat_lt, UInt8.reduceToNat]
  rw [if_neg (by omega), if_neg (by omega), if_pos high]

/-- A first byte of three: the next byte is restricted so far that the two together start no overlong
form and no surrogate. -/
theorem opening_three {b : UInt8} (low : 0xE0 ≤ b.toNat) (high : b.toNat < 0xF0) :
    ∃ l h, opening b = ([], some ⟨b.toNat - 0xE0, 2, l, h⟩) ∧
      ∀ x : UInt8, (l ≤ x ∧ x ≤ h) ↔ (0x80 ≤ x.toNat ∧ x.toNat ≤ 0xBF ∧
        0x20 ≤ (b.toNat - 0xE0) * 64 + (x.toNat - 0x80) ∧
        ¬(0x360 ≤ (b.toNat - 0xE0) * 64 + (x.toNat - 0x80) ∧
          (b.toNat - 0xE0) * 64 + (x.toNat - 0x80) < 0x380)) := by
  unfold opening
  simp only [UInt8.lt_iff_toNat_lt, UInt8.le_iff_toNat_le, ← UInt8.toNat_inj, UInt8.reduceToNat]
  rw [if_neg (by omega), if_neg (by omega), if_neg (by omega)]
  -- E0 could start an overlong form, ED a surrogate.
  split
  case isTrue he =>
    refine ⟨0xA0, 0xBF, by rw [he], fun x => ?_⟩
    simp only [UInt8.reduceToNat]
    omega
  case isFalse =>
    split
    case isTrue he =>
      refine ⟨0x80, 0x9F, by rw [he], fun x => ?_⟩
      simp only [UInt8.reduceToNat]
      omega
    case isFalse =>
      refine ⟨0x80, 0xBF, rfl, fun x => ?_⟩
      simp only [UInt8.reduceToNat]
      omega

/-- A first byte of four: the next byte is restricted so far that the two together start no overlong form
and nothing beyond U+10FFFF. -/
theorem opening_four {b : UInt8} (low : 0xF0 ≤ b.toNat) (high : b.toNat ≤ 0xF4) :
    ∃ l h, opening b = ([], some ⟨b.toNat - 0xF0, 3, l, h⟩) ∧
      ∀ x : UInt8, (l ≤ x ∧ x ≤ h) ↔ (0x80 ≤ x.toNat ∧ x.toNat ≤ 0xBF ∧
        0x10 ≤ (b.toNat - 0xF0) * 64 + (x.toNat - 0x80) ∧
        (b.toNat - 0xF0) * 64 + (x.toNat - 0x80) < 0x110) := by
  unfold opening
  simp only [UInt8.lt_iff_toNat_lt, UInt8.le_iff_toNat_le, ← UInt8.toNat_inj, UInt8.reduceToNat]
  rw [if_neg (by omega), if_neg (by omega), if_neg (by omega), if_neg (by omega), if_neg (by omega),
    if_neg (by omega)]
  -- F0 could start an overlong form, F4 a number beyond the last.
  split
  case isTrue he =>
    refine ⟨0x90, 0xBF, by rw [he], fun x => ?_⟩
    simp only [UInt8.reduceToNat]
    omega
  case isFalse =>
    split
    case isTrue hlt =>
      refine ⟨0x80, 0xBF, rfl, fun x => ?_⟩
      simp only [UInt8.reduceToNat]
      omega
    case isFalse =>
      rw [if_pos (by omega)]
      refine ⟨0x80, 0x8F, by rw [show b.toNat = 0xF4 by omega], fun x => ?_⟩
      simp only [UInt8.reduceToNat]
      omega

/-- Every other byte beyond ASCII is ill-formed by itself. -/
theorem opening_bad {b : UInt8} (high : 0x80 ≤ b.toNat) (out : b.toNat < 0xC2 ∨ 0xF4 < b.toNat) :
    opening b = ([none], none) := by
  unfold opening
  simp only [UInt8.lt_iff_toNat_lt, ← UInt8.toNat_inj, UInt8.reduceToNat]
  rw [if_neg (by omega)]
  rcases out with h | h
  · rw [if_pos h]
  · rw [if_neg (by omega), if_neg (by omega), if_neg (by omega), if_neg (by omega), if_neg (by omega),
      if_neg (by omega), if_neg (by omega), if_neg (by omega)]

/-! ## One character -/

/-- A first byte of several leaves a character unfinished. -/
theorem scan_none_cons {b : UInt8} {u : Unfinished} (h : opening b = ([], some u)) (rest : Bytes) :
    scan none (b :: rest) = scan (some u) rest := by
  simp only [scan, step, h, List.nil_append]

/-- A byte in the range of an unfinished character is taken in. -/
theorem scan_some_cons {u : Unfinished} {b : UInt8} (h : u.low ≤ b ∧ b ≤ u.high) (rest : Bytes) :
    scan (some u) (b :: rest) =
      if u.missing ≤ 1 then some (Char.ofNat (u.code * 64 + (b.toNat - 0x80))) :: scan none rest
      else scan (some ⟨u.code * 64 + (b.toNat - 0x80), u.missing - 1, 0x80, 0xBF⟩) rest := by
  simp only [scan, step, if_pos h]
  split <;> rfl

/-- Six bits as a byte that continues a character. -/
theorem continuation (n : Nat) :
    (UInt8.ofNat (n % 0x40 + 0x80)).toNat = n % 64 + 0x80 ∧
      (0x80 : UInt8) ≤ UInt8.ofNat (n % 0x40 + 0x80) ∧ UInt8.ofNat (n % 0x40 + 0x80) ≤ 0xBF := by
  have h : (UInt8.ofNat (n % 0x40 + 0x80)).toNat = n % 64 + 0x80 := by
    rw [UInt8.toNat_ofNat']
    omega
  refine ⟨h, ?_⟩
  simp only [UInt8.le_iff_toNat_le, UInt8.reduceToNat, h]
  omega

/-- **A character is read as itself**, whatever follows it. -/
theorem scan_utf8EncodeChar (c : Char) (rest : Bytes) :
    scan none (String.utf8EncodeChar c ++ rest) = some c :: scan none rest := by
  have hc : Char.ofNat c.val.toNat = c := Char.ofNat_toNat c
  have hv : c.val.toNat < 0xD800 ∨ 0xDFFF < c.val.toNat ∧ c.val.toNat < 0x110000 := c.valid
  simp only [String.utf8EncodeChar]
  generalize c.val.toNat = v at hc hv
  obtain ⟨hx, hxr⟩ := continuation v
  obtain ⟨hy, hyr⟩ := continuation (v / 64)
  obtain ⟨hz, hzr⟩ := continuation (v / 4096)
  -- One case for each length; the number is put together again from the bits of the bytes.
  split
  case isTrue h1 =>
    have hb : (UInt8.ofNat v).toNat = v := by
      rw [UInt8.toNat_ofNat']
      omega
    simp only [List.cons_append, List.nil_append, scan, step, opening, UInt8.lt_iff_toNat_lt,
      UInt8.reduceToNat, hb]
    rw [if_pos (by omega), hc]
    rfl
  case isFalse h1 =>
  split
  case isTrue h2 =>
    have hb : (UInt8.ofNat (v / 64 % 0x20 + 0xc0)).toNat = v / 64 + 0xC0 := by
      rw [UInt8.toNat_ofNat']
      omega
    simp only [List.cons_append, List.nil_append]
    rw [scan_none_cons (opening_two (by omega) (by omega)), scan_some_cons hxr, if_pos (by simp), hb, hx,
      show (v / 64 + 0xC0 - 0xC0) * 64 + (v % 64 + 0x80 - 0x80) = v by omega, hc]
  case isFalse h2 =>
  split
  case isTrue h3 =>
    have hb : (UInt8.ofNat (v / 4096 % 0x10 + 0xe0)).toNat = v / 4096 + 0xE0 := by
      rw [UInt8.toNat_ofNat']
      omega
    obtain ⟨l, h, hopen, hrange⟩ :=
      opening_three (b := UInt8.ofNat (v / 4096 % 0x10 + 0xe0)) (by omega) (by omega)
    simp only [List.cons_append, List.nil_append]
    rw [scan_none_cons hopen, scan_some_cons ((hrange _).2 (by omega)), if_neg (by simp),
      scan_some_cons hxr, if_pos (by simp), hb, hx, hy,
      show ((v / 4096 + 0xE0 - 0xE0) * 64 + (v / 64 % 64 + 0x80 - 0x80)) * 64 +
        (v % 64 + 0x80 - 0x80) = v by omega, hc]
  case isFalse h3 =>
    have hb : (UInt8.ofNat (v / 262144 % 0x08 + 0xf0)).toNat = v / 262144 + 0xF0 := by
      rw [UInt8.toNat_ofNat']
      omega
    obtain ⟨l, h, hopen, hrange⟩ :=
      opening_four (b := UInt8.ofNat (v / 262144 % 0x08 + 0xf0)) (by omega) (by omega)
    simp only [List.cons_append, List.nil_append]
    rw [scan_none_cons hopen, scan_some_cons ((hrange _).2 (by omega)), if_neg (by simp),
      scan_some_cons hyr, if_neg (by simp), scan_some_cons hxr, if_pos (by simp), hb, hx, hy, hz,
      show (((v / 262144 + 0xF0 - 0xF0) * 64 + (v / 4096 % 64 + 0x80 - 0x80)) * 64 +
        (v / 64 % 64 + 0x80 - 0x80)) * 64 + (v % 64 + 0x80 - 0x80) = v by omega, hc]

/-! ## No ill-formed part -/

/-- Where nothing is ill-formed, an unfinished character goes on. -/
theorem exists_cons_of_all_isSome {u : Unfinished} {b : Bytes}
    (h : (scan (some u) b).all Option.isSome) :
    ∃ x rest, b = x :: rest ∧ (u.low ≤ x ∧ x ≤ u.high) ∧ (1 < u.missing →
      (scan (some ⟨u.code * 64 + (x.toNat - 0x80), u.missing - 1, 0x80, 0xBF⟩) rest).all
        Option.isSome) := by
  cases b with
  | nil => cases h
  | cons x rest =>
    by_cases range : u.low ≤ x ∧ x ≤ u.high
    · refine ⟨x, rest, rfl, range, fun more => ?_⟩
      rwa [scan_some_cons range, if_neg (by omega)] at h
    · simp [scan, step, range] at h

/-- The number of a character that is made of a number. -/
theorem toNat_ofNat {n : Nat} (h : n < 0xD800 ∨ 0xDFFF < n ∧ n < 0x110000) :
    (Char.ofNat n).val.toNat = n := by
  have valid : n.isValidChar := h
  rw [Char.ofNat, dif_pos valid]
  rfl

/-- Where nothing is ill-formed, a character stands at the front. -/
theorem exists_utf8EncodeChar_append {b : UInt8} {bs : Bytes}
    (h : (scan none (b :: bs)).all Option.isSome) :
    ∃ c rest, b :: bs = String.utf8EncodeChar c ++ rest := by
  have byte : ∀ {x : UInt8} {n : Nat}, x.toNat = n → UInt8.ofNat n = x := fun hx => by
    rw [← hx, UInt8.ofNat_toNat]
  -- The first byte tells the length, and the bytes after it are there, as nothing is ill-formed.
  by_cases one : b.toNat < 0x80
  · refine ⟨Char.ofNat b.toNat, bs, ?_⟩
    rw [String.utf8EncodeChar, toNat_ofNat (by omega), if_pos (by omega), UInt8.ofNat_toNat]
    rfl
  by_cases bad : b.toNat < 0xC2 ∨ 0xF4 < b.toNat
  · simp [scan, step, opening_bad (by omega) bad] at h
  by_cases two : b.toNat < 0xE0
  · rw [scan_none_cons (opening_two (by omega) two)] at h
    obtain ⟨x, rest, rfl, hx, -⟩ := exists_cons_of_all_isSome h
    simp only [UInt8.le_iff_toNat_le, UInt8.reduceToNat] at hx
    refine ⟨Char.ofNat ((b.toNat - 0xC0) * 64 + (x.toNat - 0x80)), rest, ?_⟩
    rw [String.utf8EncodeChar, toNat_ofNat (by omega), if_neg (by omega), if_pos (by omega),
      byte (x := b) (by omega), byte (x := x) (by omega)]
    rfl
  by_cases three : b.toNat < 0xF0
  · obtain ⟨l, m, hopen, hrange⟩ := opening_three (b := b) (by omega) three
    rw [scan_none_cons hopen] at h
    obtain ⟨x, rest, rfl, hx, h⟩ := exists_cons_of_all_isSome h
    obtain ⟨y, rest, rfl, hy, -⟩ := exists_cons_of_all_isSome (h (by simp))
    rw [hrange] at hx
    simp only [UInt8.le_iff_toNat_le, UInt8.reduceToNat] at hy
    refine ⟨Char.ofNat (((b.toNat - 0xE0) * 64 + (x.toNat - 0x80)) * 64 + (y.toNat - 0x80)), rest, ?_⟩
    rw [String.utf8EncodeChar, toNat_ofNat (by omega), if_neg (by omega), if_neg (by omega),
      if_pos (by omega), byte (x := b) (by omega), byte (x := x) (by omega), byte (x := y) (by omega)]
    rfl
  · obtain ⟨l, m, hopen, hrange⟩ := opening_four (b := b) (by omega) (by omega)
    rw [scan_none_cons hopen] at h
    obtain ⟨x, rest, rfl, hx, h⟩ := exists_cons_of_all_isSome h
    obtain ⟨y, rest, rfl, hy, h⟩ := exists_cons_of_all_isSome (h (by simp))
    obtain ⟨z, rest, rfl, hz, -⟩ := exists_cons_of_all_isSome (h (by simp))
    rw [hrange] at hx
    simp only [UInt8.le_iff_toNat_le, UInt8.reduceToNat] at hy hz
    refine ⟨Char.ofNat ((((b.toNat - 0xF0) * 64 + (x.toNat - 0x80)) * 64 + (y.toNat - 0x80)) * 64 +
      (z.toNat - 0x80)), rest, ?_⟩
    rw [String.utf8EncodeChar, toNat_ofNat (by omega), if_neg (by omega), if_neg (by omega),
      if_neg (by omega), byte (x := b) (by omega), byte (x := x) (by omega), byte (x := y) (by omega),
      byte (x := z) (by omega)]
    rfl

/-- What is left after a character is no longer than what is left after its first byte. -/
theorem length_le_of_utf8EncodeChar_append {b : UInt8} {bs rest : Bytes} {c : Char}
    (h : b :: bs = String.utf8EncodeChar c ++ rest) : rest.length ≤ bs.length := by
  have positive : 1 ≤ (String.utf8EncodeChar c).length := by
    rw [String.length_utf8EncodeChar]
    exact c.utf8Size_pos
  have := congrArg List.length h
  simp only [List.length_cons, List.length_append] at this
  omega

/-! ## First characters -/

/-- A number followed by as many bytes that add nothing. -/
def extended (n : Nat) : Nat → Nat
  | 0 => n
  | k + 1 => extended (n * 64) k

theorem extended_le_extended {m n : Nat} (h : m ≤ n) (k : Nat) : extended m k ≤ extended n k := by
  induction k generalizing m n with
  | zero => exact h
  | succ k ih => exact ih (Nat.mul_le_mul_right 64 h)

/-- The smallest number that an unfinished character can still get. -/
def Unfinished.least (u : Unfinished) : Nat :=
  extended (u.code * 64 + (u.low.toNat - 0x80)) (u.missing - 1)

/-- A byte beyond ASCII is ill-formed, or begins a character that stays beyond ASCII. -/
theorem opening_beyond {b : UInt8} (h : 0x80 ≤ b.toNat) :
    opening b = ([none], none) ∨ ∃ u, opening b = ([], some u) ∧ 0x80 ≤ u.least := by
  unfold opening
  simp only [UInt8.lt_iff_toNat_lt, ← UInt8.toNat_inj, UInt8.reduceToNat]
  rw [if_neg (by omega)]
  repeat' split
  all_goals first
    | exact .inl rfl
    | refine .inr ⟨_, rfl, ?_⟩
      simp only [Unfinished.least, extended, Nat.reduceSub, UInt8.reduceToNat]
      omega

/-- A number beyond ASCII gives no ASCII character but the one that stands for no number. -/
theorem ofNat_ne_of_le {n : Nat} (h : 0x80 ≤ n) {c : Char} (ascii : c.toNat < 0x80) (nul : c ≠ '\x00') :
    Char.ofNat n ≠ c := by
  intro same
  by_cases valid : n < 0xD800 ∨ 0xDFFF < n ∧ n < 0x110000
  · have number : (Char.ofNat n).val.toNat = n := toNat_ofNat valid
    rw [same] at number
    have : c.toNat = n := number
    omega
  · refine nul (same.symm.trans ?_)
    rw [Char.ofNat, dif_neg (show ¬n.isValidChar from valid)]
    rfl

/-- An unfinished character becomes no ASCII one. -/
theorem head?_scan_some {u : Unfinished} (h : 0x80 ≤ u.least) {c : Char} (ascii : c.toNat < 0x80)
    (nul : c ≠ '\x00') (bytes : Bytes) : (scan (some u) bytes).head? ≠ some (some c) := by
  induction bytes generalizing u with
  | nil => simp [scan]
  | cons b bs ih =>
    by_cases range : u.low ≤ b ∧ b ≤ u.high
    · -- The byte adds no less than the smallest one that is in range.
      have low : u.low.toNat ≤ b.toNat := UInt8.le_iff_toNat_le.mp range.1
      have more : u.least ≤ extended (u.code * 64 + (b.toNat - 0x80)) (u.missing - 1) :=
        extended_le_extended (by omega) _
      rw [scan_some_cons range]
      split
      case isTrue last =>
        have missing : u.missing - 1 = 0 := by omega
        rw [missing, extended] at more
        simpa using ofNat_ne_of_le (Nat.le_trans h more) ascii nul
      case isFalse further =>
        refine ih (Nat.le_trans h (Nat.le_trans more (Nat.le_of_eq ?_)))
        obtain ⟨k, left⟩ : ∃ k, u.missing - 1 = k + 1 := ⟨u.missing - 2, by omega⟩
        simp only [Unfinished.least, UInt8.reduceToNat, Nat.sub_self, Nat.add_zero]
        rw [left, extended, Nat.add_sub_cancel]
    · simp [scan, step, range]

/-- The first character is an ASCII one exactly if it is the first byte. -/
theorem head?_scan_eq_ascii_iff {b : UInt8} {c : Char} (ascii : c.toNat < 0x80) (nul : c ≠ '\x00')
    (bytes : Bytes) : (scan none (b :: bytes)).head? = some (some c) ↔ b.toNat = c.toNat := by
  by_cases small : b.toNat < 0x80
  · have opened : opening b = ([some (Char.ofNat b.toNat)], none) := by
      rw [opening, if_pos (UInt8.lt_iff_toNat_lt.mpr small)]
    have number : (Char.ofNat b.toNat).toNat = b.toNat := toNat_ofNat (by omega)
    simp only [scan, step, opened, List.cons_append, List.head?_cons, Option.some.injEq]
    constructor
    · rintro rfl
      exact number.symm
    · intro same
      rw [same, Char.ofNat_toNat]
  · refine iff_of_false ?_ (by omega)
    rcases opening_beyond (b := b) (by omega) with bad | ⟨u, opened, beyond⟩
    · simp [scan, step, bad]
    · rw [scan_none_cons opened]
      exact head?_scan_some beyond ascii nul bytes

end Utf8

/-! ## Whole texts -/

@[simp] theorem Text.toUtf8_cons (c : Char) (t : Text) :
    Text.toUtf8 (c :: t) = String.utf8EncodeChar c ++ Text.toUtf8 t := List.flatMap_cons

/-- An ASCII character is encoded as its number. -/
theorem toUtf8_cons_of_ascii {c : Char} (ascii : c.toNat < 0x80) (t : Text) :
    Text.toUtf8 (c :: t) = UInt8.ofNat c.toNat :: t.toUtf8 := by
  have one : String.utf8EncodeChar c = [UInt8.ofNat c.toNat] := by
    unfold String.utf8EncodeChar
    exact if_pos (Nat.le_of_lt_succ ascii)
  rw [Text.toUtf8_cons, one, List.singleton_append]

/-- The scan of an encoded text holds its characters and nothing else. -/
theorem Utf8.scan_toUtf8 (t : Text) : Utf8.scan none t.toUtf8 = t.map some := by
  induction t with
  | nil => rfl
  | cons c cs ih => rw [Text.toUtf8_cons, Utf8.scan_utf8EncodeChar, ih, List.map_cons]

/-- A byte string in which nothing is ill-formed is an encoded text. -/
theorem exists_toUtf8_of_all_isSome (b : Bytes) (h : (Utf8.scan none b).all Option.isSome) :
    ∃ t : Text, b = t.toUtf8 := by
  -- On the length: a character takes one byte or more.
  induction hn : b.length using Nat.strongRecOn generalizing b with
  | _ n ih =>
    cases b with
    | nil => exact ⟨[], rfl⟩
    | cons x bs =>
      obtain ⟨c, rest, hc⟩ := Utf8.exists_utf8EncodeChar_append h
      have shorter := Utf8.length_le_of_utf8EncodeChar_append hc
      rw [hc, Utf8.scan_utf8EncodeChar] at h
      simp only [List.length_cons] at hn
      obtain ⟨t, ht⟩ := ih rest.length (by omega) rest h rfl
      exact ⟨c :: t, by rw [hc, ht, Text.toUtf8_cons]⟩

/-- An encoded text is read back. -/
@[simp] theorem toText?_toUtf8 (t : Text) : Bytes.toText? t.toUtf8 = some t := by
  simp [Bytes.toText?, Utf8.scan_toUtf8]

/-- **Reading is the inverse of encoding**: a byte string is read exactly as the text that it encodes. -/
theorem toText?_eq_some_iff {b : Bytes} {t : Text} : b.toText? = some t ↔ b = t.toUtf8 := by
  constructor
  · intro h
    have hall : (Utf8.scan none b).all Option.isSome := by
      by_cases hall : (Utf8.scan none b).all Option.isSome
      · exact hall
      · simp [Bytes.toText?, hall] at h
    obtain ⟨s, rfl⟩ := exists_toUtf8_of_all_isSome b hall
    rw [toText?_toUtf8, Option.some.injEq] at h
    rw [h]
  · rintro rfl
    exact toText?_toUtf8 t

/-- A list of byte strings is read exactly as the list of the texts that they encode. -/
theorem mapM_toText?_eq_some_iff {bs : List Bytes} {ts : List Text} :
    bs.mapM Bytes.toText? = some ts ↔ bs = ts.map Text.toUtf8 := by
  induction bs generalizing ts with
  | nil => simp [eq_comm]
  | cons b bs ih =>
    simp only [List.mapM_cons, Option.bind_eq_bind, Option.pure_def, Option.bind_eq_some_iff,
      Option.some.injEq]
    constructor
    · rintro ⟨t, ht, us, hus, rfl⟩
      rw [toText?_eq_some_iff.1 ht, ih.1 hus, List.map_cons]
    · intro h
      cases ts with
      | nil => cases h
      | cons t us =>
        obtain ⟨ht, hus⟩ := List.cons.inj h
        exact ⟨t, toText?_eq_some_iff.2 ht, us, ih.2 hus, rfl⟩

end ProgramTrace
