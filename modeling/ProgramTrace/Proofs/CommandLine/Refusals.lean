import ProgramTrace.Proofs.CommandLine.Grammar

/-!
# `ProgramTrace.Proofs.CommandLine.Refusals` — which refusal a command line meets.

An option with its value in the next token is settled late, so that what comes after a defective option
can be refused before it.  A command line is therefore taken apart into a *stem*, which is complete items
and perhaps one option that is unfinished, and what the reader stops at.  An unknown name and a value
attached to a flag are refused after any stem.  A flag is refused as what it asks for, and the end of the
command line as an end, only if nothing is unfinished; otherwise the unfinished option is to blame.

`Cause.Met` says of each cause that is not a bad value which command lines meet it.  No other command line
is refused for it (`explained_readFrom`, by induction over what the reader has got over), and each that
meets it is (`refusedFor_of_met`).  `refusedFor_iff` is the two together.
-/

namespace ProgramTrace.CommandLine

open Export (Format)

/-! ## Causes -/

/-- The causes of refusals for which no value is to blame. -/
inductive Cause where
  | shown (f : Flag)
  | unknown
  | valueUnexpected
  | programMissing
  | nothingGiven
  deriving DecidableEq, Repr

/-- The cause of a refusal; there is none if a value is missing, or if it is not UTF-8. -/
def Refusal.cause? : Refusal → Option Cause
  | .shown f => some (.shown f)
  | .unknownLong _ | .unknownLetters _ => some .unknown
  | .valueUnexpected .. => some .valueUnexpected
  | .programMissing | .programUnnamed => some .programMissing
  | .nothingGiven => some .nothingGiven
  | .valueMissing _ | .illFormed => none

/-- A command line is refused for a cause. -/
def RefusedFor (c : Cause) (tokens : List Bytes) : Prop :=
  ∃ r, read tokens = .error r ∧ r.cause? = some c

/-! ## Tokens that the reader stops at -/

/-- The long form of a flag. -/
def flagToken (f : Flag) : Bytes := Text.toUtf8 ("--".toList ++ f.name)

/-- The letter of a flag. -/
def Flag.letter : Flag → UInt8
  | .help => 0x68
  | .version => 0x56

/-- A token that asks for what a flag shows: its long form, or its letter after one dash, whatever follows. -/
def Asks (f : Flag) (t : Bytes) : Prop := t = flagToken f ∨ ∃ rest, t = dash :: f.letter :: rest

/-- A token that is longer than `--`, starts with it, and up to its first `=` is no known long form. -/
def IsUnknownLong (t : Bytes) : Prop :=
  ∃ rest, rest ≠ [] ∧ t = dash :: dash :: rest ∧
    ∀ n : Name, rest.takeWhile (· ≠ equals) ≠ n.text.toUtf8

/-- A token with something after one dash that is neither a second dash nor the letter of a flag. -/
def IsUnknownLetters (t : Bytes) : Prop :=
  ∃ x rest, t = dash :: x :: rest ∧ x ≠ dash ∧ ∀ f : Flag, x ≠ f.letter

/-- A token with a name or a letter that is not known. -/
def IsUnknown (t : Bytes) : Prop := IsUnknownLong t ∨ IsUnknownLetters t

/-- A token that attaches a value to a flag. -/
def IsValued (t : Bytes) : Prop := ∃ f value, t = flagToken f ++ equals :: value

/-! ## Stems -/

/-- An option that is unfinished: it has no value, or one that is not UTF-8. -/
inductive Unfinished where
  | bare (f : Format)
  | illFormed (f : Format) (value : Bytes) (undashed : value.head? ≠ some dash)
      (unread : value.toText? = none)

/-- How an unfinished option is written. -/
def Unfinished.tokens : Unfinished → List Bytes
  | bare f => [optionToken f]
  | illFormed f value _ _ => [optionToken f, value]

/-- What a command line begins with: complete items, and perhaps an option that is unfinished. -/
structure Stem where
  items : List Item
  unfinished : Option Unfinished

namespace Stem

/-- How a stem is written. -/
def tokens (s : Stem) : List Bytes := written s.items ++ (s.unfinished.map Unfinished.tokens).getD []

/-- The state of the reader after a stem. -/
def state (s : Stem) : State :=
  match s.unfinished with
  | none => .after s.items
  | some (.bare f) => { State.after s.items with pending := .awaiting f }
  | some (.illFormed f value _ _) => { State.after s.items with pending := .holding f value }

end Stem

/-- The end of a command line, with a separator or without. -/
def IsEnd (rest : List Bytes) : Prop := rest = [] ∨ rest = [separator]

/-- The command lines that meet a cause. -/
def Cause.Met (tokens : List Bytes) : Cause → Prop
  | .shown f => ∃ items t post, tokens = written items ++ t :: post ∧ Asks f t
  | .unknown => ∃ (stem : Stem) (t : Bytes) (post : List Bytes),
      tokens = stem.tokens ++ t :: post ∧ IsUnknown t
  | .valueUnexpected => ∃ (stem : Stem) (t : Bytes) (post : List Bytes),
      tokens = stem.tokens ++ t :: post ∧ IsValued t
  | .programMissing => ∃ items rest, items ≠ [] ∧ tokens = written items ++ rest ∧ IsEnd rest
  | .nothingGiven => IsEnd tokens

/-! ## Shapes -/

/-- The name of a long form is what stands before its first `=`. -/
theorem splitAttached_fst (b : Bytes) : (splitAttached b).1 = b.takeWhile (· ≠ equals) := by
  induction b with
  | nil => rfl
  | cons x xs ih =>
    by_cases same : x = equals
    · simp [splitAttached, same]
    · simp [splitAttached, same, ih]

theorem flagToken_eq (f : Flag) : flagToken f = dash :: dash :: f.name.toUtf8 := by
  rw [flagToken, Text.toUtf8_append]
  rfl

theorem name_of?_flag (f : Flag) : Name.of? f.name.toUtf8 = some (.flag f) :=
  name_of?_eq_some_iff.2 rfl

/-- A name is unknown exactly if it spells no known name. -/
theorem name_of?_eq_none_iff {b : Bytes} : Name.of? b = none ↔ ∀ n : Name, b ≠ n.text.toUtf8 := by
  constructor
  · intro h n same
    rw [name_of?_eq_some_iff.2 same] at h
    cases h
  · intro h
    cases found : Name.of? b with
    | none => rfl
    | some n => exact absurd (name_of?_eq_some_iff.1 found) (h n)

/-- A flag without a value is sorted from its token alone. -/
theorem shape_eq_flag_iff {b : Bytes} {f : Flag} :
    Shape.of b = .long f.name.toUtf8 none ↔ b = flagToken f := by
  constructor
  · intro h
    obtain ⟨rest, -, rfl, split⟩ := shape_eq_long_iff.1 h
    have joined := splitAttached_join rest
    rw [split] at joined
    rw [flagToken_eq, ← joined, List.append_nil]
  · rintro rfl
    cases f <;> decide

/-- A flag with a value is sorted from its token alone. -/
theorem shape_eq_valued_iff {b value : Bytes} {f : Flag} :
    Shape.of b = .long f.name.toUtf8 (some value) ↔ b = flagToken f ++ equals :: value := by
  rw [shape_eq_long_iff, flagToken_eq]
  constructor
  · rintro ⟨rest, -, rfl, split⟩
    have joined := splitAttached_join rest
    rw [split] at joined
    rw [← joined]
    rfl
  · rintro rfl
    exact ⟨_, by simp, rfl, splitAttached_append (by cases f <;> decide) _⟩

/-- An unknown long form is sorted as a long name that is not known. -/
theorem isUnknownLong_iff {t : Bytes} :
    IsUnknownLong t ↔ ∃ name attached, Shape.of t = .long name attached ∧ Name.of? name = none := by
  constructor
  · rintro ⟨rest, longer, rfl, unknown⟩
    refine ⟨_, _, shape_long longer, ?_⟩
    rw [name_of?_eq_none_iff, splitAttached_fst]
    exact unknown
  · rintro ⟨name, attached, shape, unknown⟩
    obtain ⟨rest, longer, rfl, split⟩ := shape_eq_long_iff.1 shape
    refine ⟨rest, longer, rfl, ?_⟩
    rw [← splitAttached_fst, split]
    exact name_of?_eq_none_iff.1 unknown

/-- Only letters after one dash are sorted as a cluster. -/
theorem shape_eq_cluster_iff {t letters : Bytes} :
    Shape.of t = .cluster letters ↔ ∃ x rest, x ≠ dash ∧ letters = x :: rest ∧ t = dash :: x :: rest := by
  constructor
  · intro h
    rcases token_cases t with word | rfl | ⟨rest, longer, rfl⟩ | ⟨x, rest, other, rfl⟩
    · rw [shape_word word] at h
      cases h
    · cases h
    · rw [shape_long longer] at h
      cases h
    · rw [shape_cluster other, Shape.cluster.injEq] at h
      exact ⟨x, rest, other, h.symm, rfl⟩
  · rintro ⟨x, rest, other, rfl, rfl⟩
    exact shape_cluster other rest

namespace State

variable {s t : State}

/-! ## Letters -/

/-- Letters that begin with that of a flag are the flag. -/
theorem cluster_letter (s : State) (f : Flag) (rest : Bytes) :
    s.cluster (f.letter :: rest) = s.refuse f := by
  cases f with
  | help =>
    have first := (Utf8.head?_scan_eq_ascii_iff (b := Flag.letter .help) (c := 'h') (by decide)
      (by decide) rest).2 (by decide)
    rw [cluster, first]
    rfl
  | version =>
    have first := (Utf8.head?_scan_eq_ascii_iff (b := Flag.letter .version) (c := 'V') (by decide)
      (by decide) rest).2 (by decide)
    rw [cluster, first]
    rfl

/-- Letters that begin with no flag are unknown, and nothing but the letters decides what is said. -/
theorem cluster_unknown {x : UInt8} (unknown : ∀ f : Flag, x ≠ f.letter) (rest : Bytes) :
    ∃ letters, ∀ s : State, s.cluster (x :: rest) = .unknownLetters letters := by
  have first : ∀ (f : Flag) (c : Char), c.toNat = f.letter.toNat → c.toNat < 0x80 → c ≠ '\x00' →
      (Utf8.scan none (x :: rest)).head? ≠ some (some c) := by
    intro f c letter ascii nul head
    rw [Utf8.head?_scan_eq_ascii_iff ascii nul] at head
    exact unknown f (UInt8.toNat_inj.mp (head.trans letter))
  have help := first .help 'h' rfl (by decide) (by decide)
  have version := first .version 'V' rfl (by decide) (by decide)
  unfold cluster
  split
  · exact absurd ‹_› help
  · exact absurd ‹_› version
  · exact ⟨_, fun _ => rfl⟩
  · exact ⟨_, fun _ => rfl⟩

/-! ## Refusals that blame a value -/

/-- An option that cannot be settled has a value to blame. -/
theorem cause?_of_settle {r : Refusal} (h : s.settle = .error r) : r.cause? = none := by
  unfold settle at h
  split at h
  · cases h
  · cases h
    rfl
  · split at h
    · cases h
    · cases h
      rfl

/-- An attached value that does not take effect is to blame, or the one before it is. -/
theorem cause?_of_attach {f : Format} {value : Bytes} {r : Refusal}
    (h : s.attach f value = .error r) : r.cause? = none := by
  unfold attach at h
  cases settled : s.settle with
  | error e =>
    rw [settled] at h
    cases h
    exact cause?_of_settle settled
  | ok u =>
    rw [settled] at h
    simp only [bind, Except.bind] at h
    split at h
    · cases h
    · cases h
      rfl

/-- An option that does not take effect has the value before it to blame. -/
theorem cause?_of_await {f : Format} {r : Refusal} (h : s.await f = .error r) : r.cause? = none := by
  unfold await at h
  cases settled : s.settle with
  | error e =>
    rw [settled] at h
    cases h
    exact cause?_of_settle settled
  | ok u =>
    rw [settled] at h
    cases h

/-- A program that gives no request has a value to blame, or itself or an argument. -/
theorem cause?_of_finish {p : Bytes} {as : List Bytes} {r : Refusal}
    (h : s.finish p as = .error r) : r.cause? = none := by
  unfold finish at h
  split at h
  · cases settled : s.settle with
    | error e =>
      rw [settled] at h
      cases h
      exact cause?_of_settle settled
    | ok u =>
      rw [settled] at h
      cases h
  · cases h
    rfl

end State

/-! ## Stems and states -/

/-- What a state stands for is a stem. -/
theorem State.Reads.exists_stem {before : List Bytes} {s : State} (h : s.Reads before) :
    ∃ stem : Stem, stem.tokens = before := by
  cases h with
  | closed items => exact ⟨⟨items, none⟩, by simp [Stem.tokens]⟩
  | awaiting items f => exact ⟨⟨items, some (.bare f)⟩, rfl⟩
  | holding items f value word =>
    cases read : Bytes.toText? value with
    | some v =>
      obtain rfl := toText?_eq_some_iff.1 read
      exact ⟨⟨items ++ [.separate f v word], none⟩, by simp [Stem.tokens, written, Item.tokens]⟩
    | none =>
      -- A dash by itself is UTF-8, so that the value does not start with one.
      have undashed : value.head? ≠ some dash := by
        rcases word with rfl | undashed
        · exact absurd read (by decide)
        · exact undashed
      exact ⟨⟨items, some (.illFormed f value undashed read)⟩, rfl⟩

/-- The reader gets over a stem. -/
theorem read_stem (stem : Stem) (rest : List Bytes) :
    read (stem.tokens ++ rest) = readFrom stem.state rest := by
  obtain ⟨items, unfinished⟩ := stem
  cases unfinished with
  | none => simpa [Stem.tokens, Stem.state] using read_written items rest
  | some u =>
    have settled : (State.after items).settle = .ok (State.after items) := State.settle_of_closed rfl
    have awaited (f : Format) (more : List Bytes) : readFrom (.after items) (optionToken f :: more) =
        readFrom { State.after items with pending := .awaiting f } more := by
      simp only [readFrom, shape_eq_option_iff.2 rfl, name_of?_format, State.await, settled]
      rfl
    cases u with
    | bare f =>
      show read (written items ++ [optionToken f] ++ rest) = _
      rw [List.append_assoc, read_written]
      exact awaited f rest
    | illFormed f value undashed unread =>
      show read (written items ++ [optionToken f, value] ++ rest) = _
      rw [List.append_assoc, read_written]
      simp only [List.cons_append, List.nil_append, awaited]
      simp only [readFrom, shape_word (.inr undashed)]
      rfl

/-! ## No other command line is refused -/

/-- What comes of reading is explained by the command line: whatever the cause, the command line meets it. -/
def Explained (tokens : List Bytes) : Except Refusal Request → Prop
  | .ok _ => True
  | .error r => ∀ c, r.cause? = some c → c.Met tokens

/-- No option is set exactly after no items. -/
theorem State.after_eq_none_iff {items : List Item} :
    ((State.after items).csv = none ∧ (State.after items).xml = none) ↔ items = [] := by
  constructor
  · rintro ⟨csv, xml⟩
    cases items with
    | nil => rfl
    | cons i rest =>
      have found : ∀ f, i.format = f → lastValue f (i :: rest) ≠ none := by
        intro f format
        have kept : i ∈ (i :: rest).filter (·.format = f) := by simp [format]
        simp only [lastValue, ne_eq, Option.map_eq_none_iff, List.getLast?_eq_none_iff]
        exact List.ne_nil_of_mem kept
      cases format : i.format with
      | csv => exact absurd csv (found .csv format)
      | xml => exact absurd xml (found .xml format)
  · rintro rfl
    exact ⟨rfl, rfl⟩

namespace Explained

variable {before tokens : List Bytes} {s : State} {r : Refusal}

/-- A refusal that blames a value needs no explanation here. -/
theorem of_none (h : r.cause? = none) : Explained tokens (.error r) := by
  intro c some
  rw [h] at some
  cases some

/-- A refusal with a cause that is met is explained. -/
theorem of_met {c : Cause} (h : r.cause? = some c) (met : c.Met tokens) :
    Explained tokens (.error r) := by
  intro c' some
  rw [h] at some
  cases some
  exact met

/-- The end of the command line. -/
theorem close (hs : s.Reads before) {rest : List Bytes} (h : IsEnd rest) :
    Explained (before ++ rest) s.close := by
  unfold State.close
  cases settled : s.settle with
  | error r => exact of_none (State.cause?_of_settle settled)
  | ok u =>
    obtain ⟨items, rfl, rfl⟩ := hs.settle settled
    simp only [bind, Except.bind]
    by_cases none : items = []
    · rw [if_pos (State.after_eq_none_iff.2 none), none]
      exact of_met rfl h
    · rw [if_neg (mt State.after_eq_none_iff.1 none)]
      exact of_met rfl ⟨items, rest, none, rfl, h⟩

/-- The program and its arguments. -/
theorem finish (s : State) (p : Bytes) (as : List Bytes) : Explained tokens (s.finish p as) := by
  cases finished : s.finish p as with
  | ok r => trivial
  | error r => exact of_none (State.cause?_of_finish finished)

/-- A flag, by whichever of its tokens. -/
theorem refuse (hs : s.Reads before) {f : Flag} {t : Bytes} (asks : Asks f t) (post : List Bytes) :
    Explained (before ++ t :: post) (.error (s.refuse f)) := by
  unfold State.refuse
  cases settled : s.settle with
  | error r => exact of_none (State.cause?_of_settle settled)
  | ok u =>
    obtain ⟨items, rfl, -⟩ := hs.settle settled
    exact of_met rfl ⟨items, t, post, rfl, asks⟩

end Explained

/-- What comes of reading is explained, whatever the state stands for and whatever is to come. -/
theorem explained_readFrom {before : List Bytes} {s : State} (hs : s.Reads before)
    (tokens : List Bytes) : Explained (before ++ tokens) (readFrom s tokens) := by
  induction tokens generalizing s before with
  | nil => exact .close hs (.inl rfl)
  | cons t post ih =>
    obtain ⟨stem, rfl⟩ := hs.exists_stem
    cases shape : Shape.of t with
    | separator =>
      rw [shape_eq_separator_iff.1 shape]
      cases post with
      | nil => exact .close hs (.inr rfl)
      | cons p as => exact .finish s p as
    | long name attached =>
      simp only [readFrom, shape]
      split
      case h_1 f value known =>
        obtain rfl := name_of?_eq_some_iff.1 known
        split
        · obtain ⟨v, rfl, hs'⟩ := hs.attach ‹_›
          rw [List.append_cons, shape_eq_attached_iff.1 shape]
          exact ih hs'
        · exact .of_none (State.cause?_of_attach ‹_›)
      case h_2 f known =>
        obtain rfl := name_of?_eq_some_iff.1 known
        split
        · rw [List.append_cons, shape_eq_option_iff.1 shape]
          exact ih (hs.await ‹_›)
        · exact .of_none (State.cause?_of_await ‹_›)
      case h_3 f value known =>
        obtain rfl := name_of?_eq_some_iff.1 known
        exact .of_met rfl ⟨stem, t, post, rfl, f, value, shape_eq_valued_iff.1 shape⟩
      case h_4 f known =>
        obtain rfl := name_of?_eq_some_iff.1 known
        exact .refuse hs (.inl (shape_eq_flag_iff.1 shape)) post
      case h_5 unknown =>
        have long : IsUnknownLong t := isUnknownLong_iff.2 ⟨name, _, shape, unknown⟩
        exact .of_met rfl ⟨stem, t, post, rfl, .inl long⟩
    | cluster letters =>
      obtain ⟨x, rest, other, rfl, rfl⟩ := shape_eq_cluster_iff.1 shape
      simp only [readFrom, shape]
      by_cases letter : ∃ f : Flag, x = f.letter
      · obtain ⟨f, rfl⟩ := letter
        rw [State.cluster_letter]
        exact .refuse hs (.inr ⟨rest, rfl⟩) post
      · have unknown : ∀ f : Flag, x ≠ f.letter := fun f same => letter ⟨f, same⟩
        obtain ⟨letters, said⟩ := State.cluster_unknown unknown rest
        rw [said]
        exact .of_met rfl ⟨stem, _, post, rfl, .inr ⟨x, rest, rfl, other, unknown⟩⟩
    | word =>
      simp only [readFrom, shape]
      split
      case h_1 f pending =>
        rw [List.append_cons]
        exact ih (hs.hold pending (shape_eq_word_iff.1 shape))
      case h_2 => exact .finish s t post

/-! ## Each command line that meets a cause is refused for it -/

/-- A flag after complete items is refused as what it asks for. -/
theorem read_asks (items : List Item) {f : Flag} {t : Bytes} (asks : Asks f t) (post : List Bytes) :
    read (written items ++ t :: post) = .error (.shown f) := by
  have refused : (State.after items).refuse f = .shown f := by
    rw [State.refuse, State.settle_of_closed rfl]
  rw [read_written]
  rcases asks with rfl | ⟨rest, rfl⟩
  · simp only [readFrom, shape_eq_flag_iff.2 rfl, name_of?_flag, refused]
  · have other : f.letter ≠ dash := by cases f <;> decide
    simp only [readFrom, shape_cluster other, State.cluster_letter, refused]

/-- An unknown name is refused after any stem, whatever follows. -/
theorem exists_read_isUnknown {t : Bytes} (h : IsUnknown t) :
    ∃ r : Refusal, r.cause? = some .unknown ∧
      ∀ (stem : Stem) (post : List Bytes), read (stem.tokens ++ t :: post) = .error r := by
  rcases h with long | ⟨x, rest, rfl, other, unknown⟩
  · obtain ⟨name, attached, shape, unknown⟩ := isUnknownLong_iff.1 long
    refine ⟨.unknownLong name.toTextLossy, rfl, fun stem post => ?_⟩
    simp only [read_stem, readFrom, shape, unknown]
  · obtain ⟨letters, said⟩ := State.cluster_unknown unknown rest
    refine ⟨.unknownLetters letters, rfl, fun stem post => ?_⟩
    simp only [read_stem, readFrom, shape_cluster other, said]

/-- A value attached to a flag is refused after any stem, whatever follows. -/
theorem exists_read_isValued {t : Bytes} (h : IsValued t) :
    ∃ r : Refusal, r.cause? = some .valueUnexpected ∧
      ∀ (stem : Stem) (post : List Bytes), read (stem.tokens ++ t :: post) = .error r := by
  obtain ⟨f, value, rfl⟩ := h
  refine ⟨.valueUnexpected f (Bytes.toTextLossy value), rfl, fun stem post => ?_⟩
  simp only [read_stem, readFrom, shape_eq_valued_iff.2 rfl, name_of?_flag]

/-- The end of the command line after complete items is refused as an end. -/
theorem read_isEnd (items : List Item) {rest : List Bytes} (h : IsEnd rest) :
    read (written items ++ rest) = (State.after items).close := by
  rw [read_written]
  rcases h with rfl | rfl
  · rfl
  · rfl

/-- A command line that meets a cause is refused for it. -/
theorem refusedFor_of_met {tokens : List Bytes} {c : Cause} (h : c.Met tokens) :
    RefusedFor c tokens := by
  cases c with
  | shown f =>
    obtain ⟨items, t, post, rfl, asks⟩ := h
    exact ⟨_, read_asks items asks post, rfl⟩
  | unknown =>
    obtain ⟨stem, t, post, rfl, unknown⟩ := h
    obtain ⟨r, cause, refused⟩ := exists_read_isUnknown unknown
    exact ⟨r, refused stem post, cause⟩
  | valueUnexpected =>
    obtain ⟨stem, t, post, rfl, valued⟩ := h
    obtain ⟨r, cause, refused⟩ := exists_read_isValued valued
    exact ⟨r, refused stem post, cause⟩
  | programMissing =>
    obtain ⟨items, rest, some, rfl, last⟩ := h
    refine ⟨.programMissing, ?_, rfl⟩
    rw [read_isEnd items last, State.close, State.settle_of_closed rfl]
    simp only [bind, Except.bind]
    rw [if_neg (mt State.after_eq_none_iff.1 some)]
  | nothingGiven =>
    exact ⟨.nothingGiven, read_isEnd [] h, rfl⟩

/-- **Which refusal a command line meets, where no value is to blame.**  A command line is refused for a cause
exactly if it meets it: a flag after complete items, an unknown name or a flag with a value after any stem,
items without a program, or nothing at all.  And what follows the token at fault makes no difference, neither
to the cause nor to what is said. -/
theorem refusedFor_iff (tokens : List Bytes) :
    (∀ c : Cause, RefusedFor c tokens ↔ c.Met tokens) ∧
    (∀ f items t, Asks f t → ∀ post post',
      read (written items ++ t :: post) = read (written items ++ t :: post')) ∧
    (∀ (stem : Stem) t, IsUnknown t ∨ IsValued t → ∀ post post',
      read (stem.tokens ++ t :: post) = read (stem.tokens ++ t :: post')) := by
  refine ⟨fun c => ⟨?_, refusedFor_of_met⟩, ?_, ?_⟩
  · rintro ⟨r, refused, cause⟩
    have explained : Explained tokens (read tokens) := explained_readFrom (.closed []) tokens
    rw [refused] at explained
    exact explained c cause
  · intro f items t asks post post'
    rw [read_asks items asks, read_asks items asks]
  · rintro stem t (unknown | valued) post post'
    · obtain ⟨r, -, refused⟩ := exists_read_isUnknown unknown
      rw [refused, refused]
    · obtain ⟨r, -, refused⟩ := exists_read_isValued valued
      rw [refused, refused]

/-- A misspelt option is refused before the unreadable value in front of it and whatever comes after it, as a
flag is whatever comes after it. -/
theorem refused_for_misspelt_option :
    IsUnknown (Text.toUtf8 "--xm".toList) ∧ Asks .help (Text.toUtf8 "-hx".toList) ∧
    RefusedFor .unknown [optionToken .csv, [0xFF], Text.toUtf8 "--xm".toList, flagToken .help] ∧
    read [optionToken .csv, [0xFF], Text.toUtf8 "--xm".toList, flagToken .help] =
      read [optionToken .csv, [0xFF], Text.toUtf8 "--xm".toList] ∧
    read [Text.toUtf8 "-hx".toList, [0xFF]] = read [Text.toUtf8 "-hx".toList] := by
  have unknown : IsUnknown (Text.toUtf8 "--xm".toList) := by
    refine .inl ⟨Text.toUtf8 "xm".toList, by decide, by decide, ?_⟩
    rintro ((_ | _) | (_ | _)) <;> decide
  have asks : Asks .help (Text.toUtf8 "-hx".toList) := .inr ⟨[0x78], by decide⟩
  let stem : Stem := ⟨[], some (.illFormed .csv [0xFF] (by decide) (by decide))⟩
  obtain ⟨iff, -, same⟩ := refusedFor_iff (stem.tokens ++ [Text.toUtf8 "--xm".toList, flagToken .help])
  obtain ⟨-, flag, -⟩ := refusedFor_iff []
  exact ⟨unknown, asks, (iff .unknown).2 ⟨stem, _, _, rfl, unknown⟩,
    same stem _ (.inl unknown) [flagToken .help] [], flag .help [] _ asks [[0xFF]] []⟩

end ProgramTrace.CommandLine
