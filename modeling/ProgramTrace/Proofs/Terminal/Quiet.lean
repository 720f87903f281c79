import Mathlib.Tactic.SplitIfs
import ProgramTrace.Terminal.Style

/-!
# `ProgramTrace.Proofs.Terminal.Quiet` — what is left of a text without terminal control.

A text is quiet (`Quiet`) if no control character is in it but tab, line feed, form feed and carriage return.
Two machines take terminal control out, one for texts as a whole and one for streams, and they differ in what
one of these four does inside a sequence.  What makes them trustworthy they have in common, and it is said of
single characters (`Sieve`): in no state is anything shown that is not quiet, outside all sequences a quiet
character is shown and leaves the machine outside, and a display sequence is not shown and ends outside,
wherever it begins.

From that follows what both do with texts.  Whatever goes in, and wherever the machine stands, what comes out is
quiet (`Sieve.quiet_sift`).  And in a message the words around a span in a style stand, whatever the span holds:
it may end in the middle of a sequence, but the reset code after it takes the machine outside
(`Sieve.exists_sift_eq`).
-/

namespace ProgramTrace.Terminal

/-! ## Quiet texts -/

/-- A text in which the only control characters are those that move the text on. -/
def Quiet (t : Text) : Prop := ∀ c ∈ t, isControl c → isSpacing c

instance : DecidablePred Quiet := List.decidableBAll fun c => isControl c → isSpacing c

@[simp] theorem quiet_nil : Quiet [] := by simp [Quiet]

@[simp] theorem quiet_cons {c : Char} {t : Text} : Quiet (c :: t) ↔ (isControl c → isSpacing c) ∧ Quiet t :=
  List.forall_mem_cons

@[simp] theorem quiet_append {s t : Text} : Quiet (s ++ t) ↔ Quiet s ∧ Quiet t := List.forall_mem_append

/-! ## Machines that show texts character by character -/

variable {σ : Type} {next : σ → Char → Text × σ} {outside : σ → Prop} {s : σ} {t t' u u' : Text}

/-- What a machine shows of a text. -/
def sift (next : σ → Char → Text × σ) (s : σ) : Text → Text
  | [] => []
  | c :: cs => (next s c).1 ++ sift next (next s c).2 cs

/-- Where a machine stands after a text. -/
def after (next : σ → Char → Text × σ) (s : σ) (t : Text) : σ := t.foldl (fun s c => (next s c).2) s

theorem after_append (next : σ → Char → Text × σ) (s : σ) (t u : Text) :
    after next s (t ++ u) = after next (after next s t) u := List.foldl_append

theorem sift_append (next : σ → Char → Text × σ) (s : σ) (t u : Text) :
    sift next s (t ++ u) = sift next s t ++ sift next (after next s t) u := by
  induction t generalizing s with
  | nil => rfl
  | cons c cs ih =>
    rw [List.cons_append, sift, sift, ih, List.append_assoc]
    rfl

/-- From outside all sequences, exactly `u` is shown of `t`, and the machine is outside after it. -/
def Shows (next : σ → Char → Text × σ) (outside : σ → Prop) (t u : Text) : Prop :=
  ∀ s, outside s → sift next s t = u ∧ outside (after next s t)

theorem Shows.nil : Shows next outside [] [] := fun _ hs => ⟨rfl, hs⟩

theorem Shows.append (h : Shows next outside t u) (h' : Shows next outside t' u') :
    Shows next outside (t ++ t') (u ++ u') := by
  intro s hs
  obtain ⟨shown, between⟩ := h s hs
  obtain ⟨shown', last⟩ := h' _ between
  exact ⟨by rw [sift_append, shown, shown'], by rwa [after_append]⟩

/-- The characters of display codes. -/
def isParameter (c : Char) : Bool := 0x30 ≤ c.toNat && c.toNat < 0x40

/-- A machine that takes out terminal control, and nothing else where it stands outside all sequences. -/
structure Sieve (next : σ → Char → Text × σ) (outside : σ → Prop) : Prop where
  /-- What is shown for a character is quiet, wherever the machine stands. -/
  quiet : ∀ s c, Quiet (next s c).1
  /-- Outside all sequences a quiet character is shown. -/
  shown : ∀ {s c}, outside s → (isControl c → isSpacing c) →
    (next s c).1 = [c] ∧ outside (next s c).2
  /-- Nothing is shown of a display sequence, which begins anywhere and ends outside. -/
  hidden : ∃ opened within, (∀ s, next s '\x1b' = ([], opened)) ∧ next opened '[' = ([], within) ∧
    (∀ c, isParameter c → next within c = ([], within)) ∧
    (next within 'm').1 = [] ∧ outside (next within 'm').2

namespace Sieve

/-- **What a machine shows is quiet**, whatever the text and wherever the machine stands. -/
theorem quiet_sift (h : Sieve next outside) (s : σ) (t : Text) : Quiet (sift next s t) := by
  induction t generalizing s with
  | nil => exact quiet_nil
  | cons c cs ih => exact quiet_append.2 ⟨h.quiet s c, ih _⟩

/-- A quiet text is shown as it is. -/
theorem shows_quiet (h : Sieve next outside) (quiet : Quiet t) : Shows next outside t t := by
  intro s hs
  induction t generalizing s with
  | nil => exact ⟨rfl, hs⟩
  | cons c cs ih =>
    obtain ⟨first, others⟩ := quiet_cons.1 quiet
    obtain ⟨same, still⟩ := h.shown hs first
    obtain ⟨rest, last⟩ := ih others _ still
    exact ⟨by rw [sift, same, rest, List.singleton_append], last⟩

/-- Nothing is shown of a display sequence, and the machine is outside after it, wherever it was. -/
theorem sift_display (h : Sieve next outside) (s : σ) {code : Text} (parameters : code.all isParameter) :
    sift next s (display code) = [] ∧ outside (after next s (display code)) := by
  obtain ⟨opened, within, escape, bracket, stays, silent, leaves⟩ := h.hidden
  -- The machine stays where the bracket takes it, as long as the code goes on.
  have code_hidden : sift next within code = [] ∧ after next within code = within := by
    induction code with
    | nil => exact ⟨rfl, rfl⟩
    | cons c cs ih =>
      rw [List.all_cons, Bool.and_eq_true] at parameters
      obtain ⟨rest, last⟩ := ih parameters.2
      have first := stays c parameters.1
      rw [after] at last
      simp only [sift, after, List.foldl_cons, first, rest, last, List.append_nil, and_self]
  have opening : sift next s ['\x1b', '['] = [] ∧ after next s ['\x1b', '['] = within := by
    simp [sift, after, escape, bracket]
  have split : display code = ['\x1b', '['] ++ (code ++ ['m']) := by simp [display]
  rw [split, sift_append, sift_append, after_append, after_append, opening.1, opening.2, code_hidden.1,
    code_hidden.2]
  exact ⟨by simp [sift, silent], leaves⟩

end Sieve

/-! ## Spans and messages -/

/-- The codes of a style are made of parameters. -/
theorem Style.isParameter_codes (style : Style) : ∀ code ∈ style.codes, code.all isParameter := by
  cases style <;> decide

/-- A message in its colours is its parts in theirs. -/
theorem Message.coloured_append (m m' : Message) :
    Message.coloured (m ++ m') = Message.coloured m ++ Message.coloured m' := List.flatMap_append

namespace Sieve

/-- Nothing is shown of display sequences. -/
theorem shows_displays (h : Sieve next outside) {codes : List Text}
    (parameters : ∀ code ∈ codes, code.all isParameter) :
    Shows next outside (codes.flatMap display) [] := by
  induction codes with
  | nil => exact .nil
  | cons code codes ih =>
    have first : Shows next outside (display code) [] :=
      fun s _ => h.sift_display s (parameters code (by simp))
    exact first.append (ih fun c mem => parameters c (List.mem_cons_of_mem code mem))

/-- Of a quiet span in its colours the text is shown. -/
theorem shows_span (h : Sieve next outside) {span : Span} (quiet : Quiet span.text) :
    Shows next outside span.coloured span.text := by
  unfold Span.coloured
  split
  case isTrue => exact h.shows_quiet quiet
  case isFalse =>
    have reset : Shows next outside (display ['0']) [] := fun s _ => h.sift_display s (by decide)
    simpa using ((h.shows_displays span.style.isParameter_codes).append (h.shows_quiet quiet)).append reset

/-- Of quiet spans in their colours the texts are shown. -/
theorem shows_message (h : Sieve next outside) {m : Message} (quiet : ∀ span ∈ m, Quiet span.text) :
    Shows next outside (Message.coloured m) (m.flatMap Span.text) := by
  induction m with
  | nil => exact .nil
  | cons span spans ih =>
    exact (h.shows_span (quiet span (by simp))).append
      (ih fun other mem => quiet other (List.mem_cons_of_mem span mem))

/-- After a span in a style the machine is outside, whatever the span holds. -/
theorem outside_after_span (h : Sieve next outside) (s : σ) {span : Span} (styled : span.style ≠ .normal) :
    outside (after next s span.coloured) := by
  rw [Span.coloured, if_neg styled, after_append]
  exact (h.sift_display _ (by decide)).2

/-- **The words around a span in a style stand, whatever the span holds.**  Of the span something quiet is shown,
and its text if that is quiet. -/
theorem exists_sift_eq (h : Sieve next outside) (hs : outside s) {front back : Message}
    (quiet : ∀ span ∈ front ++ back, Quiet span.text) {span : Span} (styled : span.style ≠ .normal) :
    ∃ left, Quiet left ∧ (Quiet span.text → left = span.text) ∧
      sift next s (Message.coloured (front ++ span :: back)) =
        front.flatMap Span.text ++ left ++ back.flatMap Span.text := by
  obtain ⟨quiet_front, quiet_back⟩ := List.forall_mem_append.1 quiet
  obtain ⟨words, before⟩ := h.shows_message quiet_front s hs
  obtain ⟨words', -⟩ := h.shows_message quiet_back _ (h.outside_after_span _ styled)
  refine ⟨sift next (after next s (Message.coloured front)) span.coloured, h.quiet_sift _ _, ?_, ?_⟩
  · intro quiet_span
    exact (h.shows_span quiet_span _ before).1
  · have split : Message.coloured (front ++ span :: back) =
        Message.coloured front ++ (span.coloured ++ Message.coloured back) := by
      rw [Message.coloured_append]
      rfl
    rw [split, sift_append, sift_append, words, words', List.append_assoc]

end Sieve

/-! ## The two machines -/

/-- A quiet character is none of those that the machines obey wherever they stand. -/
theorem not_command_of_quiet {c : Char} (quiet : isControl c → isSpacing c) :
    c ≠ '\x1b' ∧ ¬(c = '\x18' ∨ c = '\x1a') := by
  constructor
  · rintro rfl
    exact absurd (quiet rfl) (by decide)
  · rintro (rfl | rfl) <;> exact absurd (quiet rfl) (by decide)

/-- A parameter is no control character, and it stands before `@`. -/
theorem bounds_of_isParameter {c : Char} (h : isParameter c) :
    isControl c = false ∧ c.toNat < 0x40 := by
  simp only [isParameter, Bool.and_eq_true, decide_eq_true_eq] at h
  simp only [isControl, Bool.or_eq_false_iff, decide_eq_false_iff_not, beq_eq_false_iff_ne]
  omega

/-- The machine for texts as a whole is a sieve. -/
theorem sieve_step : Sieve step (· = .ground) where
  quiet m c := by
    unfold step
    split_ifs <;> simp_all
  shown := by
    rintro m c rfl quiet
    obtain ⟨escape, cancel⟩ := not_command_of_quiet quiet
    unfold step
    rw [if_neg escape, if_neg cancel]
    cases control : isControl c with
    | false => simp
    | true => simp [quiet control, Mode.obeys]
  hidden := by
    refine ⟨.escape, .sequence, fun m => rfl, by decide, ?_, by decide, by decide⟩
    intro c parameter
    obtain ⟨control, low⟩ := bounds_of_isParameter parameter
    obtain ⟨escape, cancel⟩ := not_command_of_quiet (c := c) (by simp [control])
    unfold step
    rw [if_neg escape, if_neg cancel, control]
    simp [Mode.absorb, Mode.passBy, low]

/-- The machine for streams is a sieve. -/
theorem Walk.sieve_step : Sieve Walk.step (·.mode = .ground) where
  quiet w c := by
    unfold Walk.step
    split_ifs <;> simp_all
  shown := by
    rintro ⟨mode, paused⟩ c rfl quiet
    obtain ⟨escape, cancel⟩ := not_command_of_quiet quiet
    unfold Walk.step
    rw [if_neg escape, if_neg cancel]
    cases control : isControl c with
    | false =>
      -- A character beyond ASCII ends the pause, and one of ASCII keeps it: both outside.
      by_cases ascii : 0x80 ≤ c.toNat <;> simp [ascii, Walk.ground]
    | true => simp [quiet control, Mode.obeys]
  hidden := by
    refine ⟨⟨.escape, false⟩, ⟨.sequence, false⟩, fun w => rfl, by decide, ?_, by decide, by decide⟩
    intro c parameter
    obtain ⟨control, low⟩ := bounds_of_isParameter parameter
    obtain ⟨escape, cancel⟩ := not_command_of_quiet (c := c) (by simp [control])
    unfold Walk.step
    rw [if_neg escape, if_neg cancel, control]
    simp [Mode.absorb, Mode.passBy, low]

/-- Stripping a text is a run of the machine for texts as a whole. -/
theorem stripFrom_eq_sift (m : Mode) (t : Text) : stripFrom m t = sift step m t := by
  induction t generalizing m with
  | nil => rfl
  | cons c cs ih => rw [stripFrom, sift, ih]

/-- Stripping a text on its way to a stream is a run of the machine for streams. -/
theorem Walk.strip_eq_sift (w : Walk) (t : Text) : w.strip t = sift Walk.step w t := by
  induction t generalizing w with
  | nil => rfl
  | cons c cs ih => rw [Walk.strip, sift, ih]

/-! ## Messages without colour -/

namespace Message

/-- The plain text of a message is what the machine for texts shows of its colours. -/
theorem plain_eq_sift (m : Message) : m.plain = sift step .ground (Message.coloured m) :=
  stripFrom_eq_sift .ground _

/-- What a stream gets of a message is what the machine for streams shows of its colours. -/
theorem streamed_eq_sift (m : Message) : m.streamed = sift Walk.step .ground (Message.coloured m) :=
  Walk.strip_eq_sift .ground _

/-- **The plain text of a message is quiet**, whatever its spans hold. -/
theorem quiet_plain (m : Message) : Quiet m.plain := by
  rw [plain_eq_sift]
  exact sieve_step.quiet_sift _ _

/-- **What a stream gets that is no terminal is quiet**, whatever the spans of the message hold. -/
theorem quiet_streamed (m : Message) : Quiet m.streamed := by
  rw [streamed_eq_sift]
  exact Walk.sieve_step.quiet_sift _ _

end Message

end ProgramTrace.Terminal
