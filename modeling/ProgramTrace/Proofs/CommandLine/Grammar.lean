import ProgramTrace.CommandLine.Reader
import ProgramTrace.Proofs.Utf8

/-!
# `ProgramTrace.Proofs.CommandLine.Grammar` — the command lines that give a request.

The grammar is declarative: a command line is written from option items, perhaps a separator, a program
and its arguments (`Invocation`), and it asks for what it is written from (`Invocation.request`).  The
reader is a machine that goes over the tokens once, with an option that may be open and is settled late.

The two are tied together by two facts about the state of the reader.  Settling early changes nothing
(`readFrom_settled`), so the reader gets over the items of an invocation one by one.  And whatever the
reader has got over is what its state stands for (`State.Reads`), so a request that it gives comes from an
invocation.  `read_eq_ok_iff` is the two together.
-/

namespace ProgramTrace.CommandLine

open Export (Format)

/-! ## The grammar -/

/-- A token that is taken for a word: `-` by itself, or one that does not start with `-`. -/
def IsWord (b : Bytes) : Prop := b = [dash] ∨ b.head? ≠ some dash

/-- The token `--`. -/
def separator : Bytes := Text.toUtf8 "--".toList

/-- The token of an option whose value is in the next token. -/
def optionToken (f : Format) : Bytes := Text.toUtf8 ("--".toList ++ f.name)

/-- The token of an option with its value. -/
def attachedToken (f : Format) (value : Text) : Bytes :=
  Text.toUtf8 ("--".toList ++ f.name ++ '=' :: value)

/-- An option with its value, in one token or in two.  A value in a token of its own is a word. -/
inductive Item where
  | attached (f : Format) (value : Text)
  | separate (f : Format) (value : Text) (word : IsWord value.toUtf8)

namespace Item

/-- The option of an item. -/
def format : Item → Format
  | attached f _ | separate f _ _ => f

/-- The value of an item. -/
def value : Item → Text
  | attached _ v | separate _ v _ => v

/-- How an item is written. -/
def tokens : Item → List Bytes
  | attached f v => [attachedToken f v]
  | separate f v _ => [optionToken f, v.toUtf8]

end Item

/-- The value of the last item of an option, if there is one. -/
def lastValue (f : Format) (items : List Item) : Option Text :=
  ((items.filter (·.format = f)).getLast?).map Item.value

/-- Items in a row. -/
def written (items : List Item) : List Bytes := items.flatMap Item.tokens

/-- What a command line is written from.  Without a separator the program is a word. -/
structure Invocation where
  items : List Item
  separated : Bool
  program : Text
  arguments : List Text
  word : separated = false → IsWord program.toUtf8

namespace Invocation

/-- How an invocation is written. -/
def tokens (i : Invocation) : List Bytes :=
  written i.items ++ (if i.separated then [separator] else []) ++
    i.program.toUtf8 :: i.arguments.map Text.toUtf8

/-- What an invocation asks for: the last value of each option, the program and its arguments. -/
def request (i : Invocation) : Request :=
  ⟨lastValue .csv i.items, lastValue .xml i.items, i.program, i.arguments⟩

end Invocation

/-! ## Shapes of tokens -/

/-- The forms of a token: a word, the separator, a long name, or letters after one `-`. -/
theorem token_cases (b : Bytes) :
    IsWord b ∨ b = separator ∨ (∃ rest, rest ≠ [] ∧ b = dash :: dash :: rest) ∨
      ∃ x rest, x ≠ dash ∧ b = dash :: x :: rest := by
  rcases b with _ | ⟨x, _ | ⟨y, rest⟩⟩
  · exact .inl (.inr (by simp))
  · by_cases hx : x = dash
    · exact .inl (.inl (by rw [hx]))
    · exact .inl (.inr (by simp [hx]))
  · by_cases hx : x = dash
    · subst hx
      by_cases hy : y = dash
      · subst hy
        by_cases hr : rest = []
        · exact .inr (.inl (by rw [hr]; rfl))
        · exact .inr (.inr (.inl ⟨rest, hr, rfl⟩))
      · exact .inr (.inr (.inr ⟨y, rest, hy, rfl⟩))
    · exact .inl (.inr (by simp [hx]))

theorem shape_word {b : Bytes} (h : IsWord b) : Shape.of b = .word := by
  rcases h with rfl | h
  · rfl
  · cases b with
    | nil => rfl
    | cons x rest =>
      have other : x ≠ dash := by simpa using h
      exact if_pos other

theorem shape_separator : Shape.of separator = .separator := rfl

theorem shape_long {rest : Bytes} (h : rest ≠ []) :
    Shape.of (dash :: dash :: rest) = .long (splitAttached rest).1 (splitAttached rest).2 := by
  simp [Shape.of, h]

theorem shape_cluster {x : UInt8} (h : x ≠ dash) (rest : Bytes) :
    Shape.of (dash :: x :: rest) = .cluster (x :: rest) := by
  simp [Shape.of, h]

/-- A token is sorted as a word exactly if it is one. -/
theorem shape_eq_word_iff {b : Bytes} : Shape.of b = .word ↔ IsWord b := by
  refine ⟨fun h => ?_, shape_word⟩
  rcases token_cases b with word | rfl | ⟨rest, hr, rfl⟩ | ⟨x, rest, hx, rfl⟩
  · exact word
  · cases h
  · rw [shape_long hr] at h
    cases h
  · rw [shape_cluster hx] at h
    cases h

/-- Only `--` is sorted as a separator. -/
theorem shape_eq_separator_iff {b : Bytes} : Shape.of b = .separator ↔ b = separator := by
  refine ⟨fun h => ?_, fun h => h ▸ shape_separator⟩
  rcases token_cases b with word | rfl | ⟨rest, hr, rfl⟩ | ⟨x, rest, hx, rfl⟩
  · rw [shape_word word] at h
    cases h
  · rfl
  · rw [shape_long hr] at h
    cases h
  · rw [shape_cluster hx] at h
    cases h

/-- Exactly the tokens that are longer than `--` and start with it are sorted as long names. -/
theorem shape_eq_long_iff {b name : Bytes} {attached : Option Bytes} :
    Shape.of b = .long name attached ↔
      ∃ rest, rest ≠ [] ∧ b = dash :: dash :: rest ∧ splitAttached rest = (name, attached) := by
  constructor
  · intro h
    rcases token_cases b with word | rfl | ⟨rest, hr, rfl⟩ | ⟨x, rest, hx, rfl⟩
    · rw [shape_word word] at h
      cases h
    · cases h
    · rw [shape_long hr, Shape.long.injEq] at h
      exact ⟨rest, hr, rfl, Prod.ext h.1 h.2⟩
    · rw [shape_cluster hx] at h
      cases h
  · rintro ⟨rest, hr, rfl, split⟩
    rw [shape_long hr, split]

/-- A name without `=` is split off at the first `=`. -/
theorem splitAttached_append {name : Bytes} (h : equals ∉ name) (value : Bytes) :
    splitAttached (name ++ equals :: value) = (name, some value) := by
  induction name with
  | nil => simp [splitAttached]
  | cons b bs ih =>
    simp only [List.mem_cons, not_or] at h
    rw [List.cons_append, splitAttached, if_neg (Ne.symm h.1), ih h.2]

/-- A name is known exactly if it spells a known name. -/
theorem name_of?_eq_some_iff {b : Bytes} {n : Name} : Name.of? b = some n ↔ b = n.text.toUtf8 := by
  constructor
  · intro h
    have := List.find?_some h
    exact (beq_iff_eq.1 this).symm
  · rintro rfl
    rcases n with (_ | _) | (_ | _) <;> decide

theorem name_of?_format (f : Format) : Name.of? f.name.toUtf8 = some (.option f) :=
  name_of?_eq_some_iff.2 rfl

theorem optionToken_eq (f : Format) : optionToken f = dash :: dash :: f.name.toUtf8 := by
  rw [optionToken, Text.toUtf8_append]
  rfl

theorem attachedToken_eq (f : Format) (value : Text) :
    attachedToken f value = dash :: dash :: (f.name.toUtf8 ++ equals :: value.toUtf8) := by
  rw [attachedToken, Text.toUtf8_append, Text.toUtf8_append, Text.toUtf8_cons]
  rfl

/-- A known option without a value is sorted from its token alone. -/
theorem shape_eq_option_iff {b : Bytes} {f : Format} :
    Shape.of b = .long f.name.toUtf8 none ↔ b = optionToken f := by
  constructor
  · intro h
    obtain ⟨rest, -, rfl, hs⟩ := shape_eq_long_iff.1 h
    have := splitAttached_join rest
    rw [hs] at this
    rw [optionToken_eq, ← this, List.append_nil]
  · rintro rfl
    cases f <;> decide

/-- A known option with a value is sorted from its token alone. -/
theorem shape_eq_attached_iff {b : Bytes} {f : Format} {value : Text} :
    Shape.of b = .long f.name.toUtf8 (some value.toUtf8) ↔ b = attachedToken f value := by
  rw [shape_eq_long_iff, attachedToken_eq]
  constructor
  · rintro ⟨rest, -, rfl, hs⟩
    have := splitAttached_join rest
    rw [hs] at this
    rw [← this]
  · rintro rfl
    exact ⟨_, by simp, rfl, splitAttached_append (by cases f <;> decide) _⟩

/-! ## Settling early -/

namespace State

/-- A state without an open option is settled as it is. -/
theorem settle_of_closed {s : State} (h : s.pending = .closed) : s.settle = .ok s := by
  rw [settle, h]

/-- A settled state has no open option. -/
theorem pending_of_settle {s t : State} (h : s.settle = .ok t) : t.pending = .closed := by
  unfold settle at h
  split at h
  case h_1 hp => cases h; exact hp
  case h_2 => cases h
  case h_3 f value hp =>
    split at h
    · cases h
      cases f <;> rfl
    · cases h

/-- A state that can be settled is not waiting for a value. -/
theorem not_awaiting_of_settle {s t : State} (h : s.settle = .ok t) (f : Format) :
    s.pending ≠ .awaiting f := by
  intro hp
  rw [settle, hp] at h
  cases h

end State

/-- **Settling early changes nothing**: what is read after a state that can be settled is read as after the
settled state. -/
theorem readFrom_settled {s t : State} (h : s.settle = .ok t) (tokens : List Bytes) :
    readFrom s tokens = readFrom t tokens := by
  have ht : t.settle = .ok t := State.settle_of_closed (State.pending_of_settle h)
  have close : s.close = t.close := by
    simp only [State.close, h, ht]
  have finish : s.finish = t.finish := by
    funext p as
    simp only [State.finish, h, ht]
  have attach : s.attach = t.attach := by
    funext f value
    simp only [State.attach, h, ht]
  have await : s.await = t.await := by
    funext f
    simp only [State.await, h, ht]
  have refuse : s.refuse = t.refuse := by
    funext f
    simp only [State.refuse, h, ht]
  have cluster : s.cluster = t.cluster := by
    funext letters
    simp only [State.cluster, refuse]
  cases tokens with
  | nil => rw [readFrom, readFrom, close]
  | cons b bs =>
    simp only [readFrom, close, finish, attach, await, refuse, cluster]
    -- Only a word looks at the open option itself, and then for one that waits for a value.
    cases Shape.of b with
    | word =>
      rw [State.pending_of_settle h]
      cases hp : s.pending with
      | awaiting f => exact absurd hp (State.not_awaiting_of_settle h f)
      | closed => rfl
      | holding f value => rfl
    | _ => rfl

/-- The reader gets over an item: its value is set, and nothing else changes. -/
theorem readFrom_item {s : State} (hs : s.pending = .closed) (i : Item) (rest : List Bytes) :
    readFrom s (i.tokens ++ rest) = readFrom (s.assign i.value i.format) rest := by
  have settled := State.settle_of_closed hs
  cases i with
  | attached f value =>
    simp only [Item.tokens, Item.value, Item.format, List.cons_append, List.nil_append, readFrom,
      shape_eq_attached_iff.2 rfl, name_of?_format, State.attach, settled, toText?_toUtf8]
    rfl
  | separate f value word =>
    simp only [Item.tokens, Item.value, Item.format, List.cons_append, List.nil_append, readFrom,
      shape_eq_option_iff.2 rfl, name_of?_format, State.await, settled, shape_eq_word_iff.2 word]
    -- The value is held and not yet set, which makes no difference to what follows.
    refine readFrom_settled ?_ rest
    simp only [State.settle, toText?_toUtf8]
    rw [← hs]

/-! ## What a state stands for -/

namespace State

/-- The state after items. -/
def after (items : List Item) : State := ⟨lastValue .csv items, lastValue .xml items, .closed⟩

/-- One item more sets its value. -/
theorem after_append (items : List Item) (i : Item) :
    after (items ++ [i]) = (after items).assign i.value i.format := by
  cases h : i.format <;> simp [after, assign, lastValue, List.filter_append, h]

/-- The tokens that a state stands for: items, and after them the open option with what it has. -/
inductive Reads : List Bytes → State → Prop where
  | closed (items : List Item) : Reads (written items) (after items)
  | awaiting (items : List Item) (f : Format) :
      Reads (written items ++ [optionToken f]) { after items with pending := .awaiting f }
  | holding (items : List Item) (f : Format) (value : Bytes) (word : IsWord value) :
      Reads (written items ++ [optionToken f, value])
        { after items with pending := .holding f value }

variable {before : List Bytes} {s t : State}

/-- What is settled stands for items alone. -/
theorem Reads.settle (hs : Reads before s) (h : s.settle = .ok t) :
    ∃ items, before = written items ∧ t = after items := by
  cases hs with
  | closed items =>
    rw [settle_of_closed rfl] at h
    cases h
    exact ⟨items, rfl, rfl⟩
  | awaiting items f => exact absurd rfl (not_awaiting_of_settle h f)
  | holding items f value word =>
    simp only [State.settle] at h
    cases hv : Bytes.toText? value with
    | none => rw [hv] at h; cases h
    | some v =>
      rw [hv] at h
      obtain rfl := toText?_eq_some_iff.1 hv
      cases h
      refine ⟨items ++ [.separate f v word], ?_, ?_⟩
      · simp [written, Item.tokens]
      · rw [after_append]
        rfl

/-- An option with its value becomes one item more. -/
theorem Reads.attach {f : Format} {value : Bytes} (hs : Reads before s) (h : s.attach f value = .ok t) :
    ∃ v, value = Text.toUtf8 v ∧ Reads (before ++ [attachedToken f v]) t := by
  unfold State.attach at h
  cases hd : s.settle with
  | error r => rw [hd] at h; cases h
  | ok u =>
    rw [hd] at h
    obtain ⟨items, rfl, rfl⟩ := hs.settle hd
    cases hv : Bytes.toText? value with
    | none => simp only [bind, Except.bind, hv] at h; cases h
    | some v =>
      simp only [bind, Except.bind, hv, Except.ok.injEq] at h
      refine ⟨v, toText?_eq_some_iff.1 hv, ?_⟩
      have one : written items ++ [attachedToken f v] = written (items ++ [.attached f v]) := by
        simp [written, Item.tokens]
      rw [← h, one, show (after items).assign v f = after (items ++ [.attached f v]) from
        (after_append items (.attached f v)).symm]
      exact .closed _

/-- An option without a value is open. -/
theorem Reads.await {f : Format} (hs : Reads before s) (h : s.await f = .ok t) :
    Reads (before ++ [optionToken f]) t := by
  unfold State.await at h
  cases hd : s.settle with
  | error r => rw [hd] at h; cases h
  | ok u =>
    rw [hd] at h
    obtain ⟨items, rfl, rfl⟩ := hs.settle hd
    cases h
    exact .awaiting items f

/-- A word goes to the option that waits for it. -/
theorem Reads.hold {f : Format} {value : Bytes} (hs : Reads before s) (hp : s.pending = .awaiting f)
    (word : IsWord value) : Reads (before ++ [value]) { s with pending := .holding f value } := by
  cases hs with
  | closed items => cases hp
  | awaiting items g =>
    cases hp
    rw [List.append_assoc]
    exact .holding items f value word
  | holding items g v w => cases hp

/-- A program with its arguments completes items to a request. -/
theorem Reads.finish {p : Bytes} {as : List Bytes} {r : Request} (hs : Reads before s)
    (h : s.finish p as = .ok r) :
    ∃ items program arguments, before = written items ∧ p = Text.toUtf8 program ∧
      as = arguments.map Text.toUtf8 ∧
      r = ⟨lastValue .csv items, lastValue .xml items, program, arguments⟩ := by
  unfold State.finish at h
  split at h
  case h_1 program arguments hp has =>
    cases hd : s.settle with
    | error r => rw [hd] at h; cases h
    | ok u =>
      rw [hd] at h
      obtain ⟨items, rfl, rfl⟩ := hs.settle hd
      cases h
      exact ⟨items, program, arguments, rfl, toText?_eq_some_iff.1 hp,
        mapM_toText?_eq_some_iff.1 has, rfl⟩
  case h_2 => cases h

/-- The end of the command line gives no request. -/
theorem close_ne_ok (s : State) (r : Request) : s.close ≠ .ok r := by
  intro h
  unfold State.close at h
  cases hd : s.settle with
  | error e => rw [hd] at h; cases h
  | ok u =>
    rw [hd] at h
    simp only [bind, Except.bind] at h
    split at h <;> cases h

end State

/-! ## The reader and the grammar -/

/-- A request comes from an invocation: its items begin with those that the state stands for. -/
theorem exists_invocation_of_readFrom {before tokens : List Bytes} {s : State} {r : Request}
    (hs : s.Reads before) (h : readFrom s tokens = .ok r) :
    ∃ i : Invocation, i.tokens = before ++ tokens ∧ i.request = r := by
  induction tokens generalizing s before with
  | nil => exact absurd h (s.close_ne_ok r)
  | cons b bs ih =>
    -- Only three tokens leave the reader going: the two forms of an option, and a word for an open option.
    cases shape : Shape.of b with
    | separator =>
      cases bs with
      | nil =>
        simp only [readFrom, shape] at h
        exact absurd h (s.close_ne_ok r)
      | cons p as =>
        simp only [readFrom, shape] at h
        obtain ⟨items, program, arguments, rfl, rfl, rfl, rfl⟩ := hs.finish h
        refine ⟨⟨items, true, program, arguments, by simp⟩, ?_, rfl⟩
        rw [shape_eq_separator_iff.1 shape]
        simp [Invocation.tokens]
    | long name attached =>
      simp only [readFrom, shape] at h
      split at h
      case h_1 f value hname =>
        obtain rfl := name_of?_eq_some_iff.1 hname
        split at h
        · obtain ⟨v, rfl, hs'⟩ := hs.attach ‹_›
          rw [List.append_cons, shape_eq_attached_iff.1 shape]
          exact ih hs' h
        · cases h
      case h_2 f hname =>
        obtain rfl := name_of?_eq_some_iff.1 hname
        split at h
        · rw [List.append_cons, shape_eq_option_iff.1 shape]
          exact ih (hs.await ‹_›) h
        · cases h
      all_goals cases h
    | cluster letters =>
      simp only [readFrom, shape] at h
      cases h
    | word =>
      simp only [readFrom, shape] at h
      have word := shape_eq_word_iff.1 shape
      split at h
      case h_1 f hp =>
        rw [List.append_cons]
        exact ih (hs.hold hp word) h
      case h_2 =>
        obtain ⟨items, program, arguments, rfl, rfl, rfl, rfl⟩ := hs.finish h
        refine ⟨⟨items, false, program, arguments, fun _ => word⟩, ?_, rfl⟩
        simp [Invocation.tokens]

/-- The reader gets over items one by one. -/
theorem readFrom_written (before items : List Item) (rest : List Bytes) :
    readFrom (.after before) (written items ++ rest) = readFrom (.after (before ++ items)) rest := by
  induction items generalizing before with
  | nil => rw [List.append_nil]; rfl
  | cons i items ih =>
    rw [written, List.flatMap_cons, List.append_assoc, readFrom_item rfl, ← State.after_append]
    exact (ih _).trans (by rw [List.append_assoc, List.singleton_append])

/-- The reader gets over the items that a command line begins with. -/
theorem read_written (items : List Item) (rest : List Bytes) :
    read (written items ++ rest) = readFrom (.after items) rest :=
  readFrom_written [] items rest

/-- An invocation is read as what it asks for. -/
theorem read_tokens (i : Invocation) : read i.tokens = .ok i.request := by
  have finish : (State.after i.items).finish i.program.toUtf8 (i.arguments.map Text.toUtf8) =
      .ok i.request := by
    rw [State.finish, toText?_toUtf8, mapM_toText?_eq_some_iff.2 rfl]
    simp only [State.settle_of_closed (s := State.after i.items) rfl]
    rfl
  have start : read i.tokens = readFrom (.after i.items)
      ((if i.separated then [separator] else []) ++
        i.program.toUtf8 :: i.arguments.map Text.toUtf8) := by
    rw [read, Invocation.tokens, List.append_assoc]
    exact readFrom_written [] i.items _
  rw [start]
  cases hsep : i.separated with
  | true => simpa [readFrom, shape_eq_separator_iff.2 rfl] using finish
  | false =>
    simp only [Bool.false_eq_true, if_false, List.nil_append, readFrom,
      shape_eq_word_iff.2 (i.word hsep)]
    exact finish

/-- **The command lines that give a request are those of the grammar**, and each gives what it asks for.
Nothing is assumed of the tokens, and the arguments are kept as they are, whatever they look like. -/
theorem read_eq_ok_iff (tokens : List Bytes) (r : Request) :
    read tokens = .ok r ↔ ∃ i : Invocation, i.tokens = tokens ∧ i.request = r := by
  constructor
  · intro h
    exact exists_invocation_of_readFrom (.closed []) h
  · rintro ⟨i, rfl, rfl⟩
    exact read_tokens i

/-- The last value counts, a dash can be one, and the arguments are not looked at. -/
example :
    read (["--csv", "a", "--xml=", "--csv", "-", "true", "--csv"].map fun t => Text.toUtf8 t.toList) =
      .ok ⟨some ['-'], some [], "true".toList, ["--csv".toList]⟩ := by
  rfl

end ProgramTrace.CommandLine
