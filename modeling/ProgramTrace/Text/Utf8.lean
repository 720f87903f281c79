/-!
# `ProgramTrace.Text.Utf8` — texts, byte strings and the UTF-8 form between them.

A text is the list of its characters, a byte string the list of its bytes.  `Text.toUtf8` writes a text
as bytes.  Reading goes through one scan: each character of the input is an item, and each longest
ill-formed part is an empty item, so that `Bytes.toText?` (strict) and `Bytes.toTextLossy` (which shows
U+FFFD for an ill-formed part) read the same items and differ in nothing else
(`toTextLossy_of_toText?`).
-/

namespace ProgramTrace

/-- A text is the list of its characters. -/
abbrev Text := List Char

/-- A byte string is the list of its bytes. -/
abbrev Bytes := List UInt8

/-- The parts of a text between separators. -/
def Text.parts (separator : Char) : Text → List Text
  | [] => [[]]
  | c :: cs =>
    if c = separator then [] :: parts separator cs
    else match parts separator cs with
      | [] => [[c]]
      | p :: ps => (c :: p) :: ps

/-! ## Writing -/

/-- The UTF-8 form of a text. -/
def Text.toUtf8 (t : Text) : Bytes := t.flatMap String.utf8EncodeChar

@[simp] theorem Text.toUtf8_nil : Text.toUtf8 [] = [] := rfl

@[simp] theorem Text.toUtf8_append (s t : Text) :
    Text.toUtf8 (s ++ t) = Text.toUtf8 s ++ Text.toUtf8 t := List.flatMap_append

/-! ## Places in the UTF-8 form -/

/-- A text without its first `n` bytes, if these are whole characters. -/
def Text.dropBytes? : Nat → Text → Option Text
  | 0, t => some t
  | _ + 1, [] => none
  | n + 1, c :: cs => if c.utf8Size ≤ n + 1 then dropBytes? (n + 1 - c.utf8Size) cs else none

/-- The first `n` bytes of a text, if these are whole characters. -/
def Text.takeBytes? : Nat → Text → Option Text
  | 0, _ => some []
  | _ + 1, [] => none
  | n + 1, c :: cs =>
    if c.utf8Size ≤ n + 1 then (takeBytes? (n + 1 - c.utf8Size) cs).map (c :: ·) else none

/-! ## Reading -/

namespace Utf8

/-- A character of several bytes that has been read in part: the bits so far, how many bytes are
missing, and the range in which the next byte has to lie. -/
structure Unfinished where
  code : Nat
  missing : Nat
  low : UInt8
  high : UInt8
  deriving DecidableEq, Repr

/-- What a byte gives that does not continue a character: an item, or the start of a character of
several bytes.  The ranges keep out overlong forms, surrogates and what lies beyond U+10FFFF. -/
def opening (b : UInt8) : List (Option Char) × Option Unfinished :=
  if b < 0x80 then ([some (Char.ofNat b.toNat)], none)
  else if b < 0xC2 then ([none], none)
  else if b < 0xE0 then ([], some ⟨b.toNat - 0xC0, 1, 0x80, 0xBF⟩)
  else if b = 0xE0 then ([], some ⟨0x0, 2, 0xA0, 0xBF⟩)
  else if b = 0xED then ([], some ⟨0xD, 2, 0x80, 0x9F⟩)
  else if b < 0xF0 then ([], some ⟨b.toNat - 0xE0, 2, 0x80, 0xBF⟩)
  else if b = 0xF0 then ([], some ⟨0, 3, 0x90, 0xBF⟩)
  else if b < 0xF4 then ([], some ⟨b.toNat - 0xF0, 3, 0x80, 0xBF⟩)
  else if b = 0xF4 then ([], some ⟨4, 3, 0x80, 0x8F⟩)
  else ([none], none)

/-- One byte further: the items it completes, and what is unfinished after it. -/
def step : Option Unfinished → UInt8 → List (Option Char) × Option Unfinished
  | none, b => opening b
  | some u, b =>
    if u.low ≤ b ∧ b ≤ u.high then
      let code := u.code * 64 + (b.toNat - 0x80)
      if u.missing ≤ 1 then ([some (Char.ofNat code)], none)
      else ([], some ⟨code, u.missing - 1, 0x80, 0xBF⟩)
    else (none :: (opening b).1, (opening b).2)

/-- The items of a byte string: its characters, and `none` for each longest ill-formed part. -/
def scan : Option Unfinished → Bytes → List (Option Char)
  | none, [] => []
  | some _, [] => [none]
  | u, b :: bs => (step u b).1 ++ scan (step u b).2 bs

/-- The character that stands for an ill-formed part. -/
def replacement : Char := '\uFFFD'

end Utf8

/-- The text that a byte string is the UTF-8 form of, if it is one. -/
def Bytes.toText? (b : Bytes) : Option Text :=
  if (Utf8.scan none b).all Option.isSome then some ((Utf8.scan none b).filterMap id) else none

/-- The text of a byte string, with U+FFFD for each longest ill-formed part. -/
def Bytes.toTextLossy (b : Bytes) : Text :=
  (Utf8.scan none b).map (·.getD Utf8.replacement)

/-- Well-formed bytes read the same either way. -/
theorem toTextLossy_of_toText? {b : Bytes} {t : Text} (h : b.toText? = some t) :
    b.toTextLossy = t := by
  unfold Bytes.toText? at h
  unfold Bytes.toTextLossy
  generalize Utf8.scan none b = items at h
  split at h
  case isTrue hall =>
    cases h
    induction items with
    | nil => rfl
    | cons x xs ih =>
      simp only [List.all_cons, Bool.and_eq_true] at hall
      obtain ⟨c, rfl⟩ := Option.isSome_iff_exists.1 hall.1
      simp [ih hall.2]
  case isFalse => cases h

end ProgramTrace
