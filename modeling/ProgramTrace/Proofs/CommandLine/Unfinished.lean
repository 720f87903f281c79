import ProgramTrace.Proofs.CommandLine.Refusals

/-!
# `ProgramTrace.Proofs.CommandLine.Unfinished` — an option without a usable value is never forgiven.

An option whose value should be in the next token is settled late.  If it has no value, or one that is not UTF-8, then
the reader goes on with a state that cannot be settled, and whatever it meets next is the last thing it looks at: each
token that could take effect settles the option first, and so does the end of the command line.  Three things are
refused without a look at the option: an unknown name, a value attached to a flag, and a program or an argument that is
not UTF-8.

`Unfinished.Verdict` says which refusal each continuation leads to, and `read_unfinished` that every continuation leads
to one, however long it is.  The only continuation left out is the one that gives the option a value.
-/

namespace ProgramTrace.CommandLine

open Export (Format)

/-! ## Verdicts -/

/-- The first token of a list has a property. -/
def Begins (p : Bytes → Prop) (tokens : List Bytes) : Prop := ∃ t ∈ tokens.head?, p t

/-- The separator, and after it a program or an argument that is not UTF-8. -/
def EndsUnread (tokens : List Bytes) : Prop :=
  ∃ rest, tokens = separator :: rest ∧ ∃ t ∈ rest, t.toText? = none

namespace Unfinished

/-- What the option itself is refused for: its value is missing, or is not UTF-8. -/
def fault : Unfinished → Refusal
  | bare f => .valueMissing f
  | illFormed .. => .illFormed

/-- What leaves the option unfinished: if it has no value yet, then nothing or a token that starts with a dash, and is
more than a dash. -/
def Stays (post : List Bytes) : Unfinished → Prop
  | bare _ => ∀ t ∈ post.head?, t.head? = some dash ∧ t ≠ [dash]
  | illFormed .. => True

/-- The refusal that a continuation leads to. -/
structure Verdict (u : Unfinished) (post : List Bytes) (r : Refusal) : Prop where
  /-- An unknown name is refused as such. -/
  unknown : Begins IsUnknown post → r.cause? = some .unknown
  /-- A value attached to a flag is refused as such. -/
  valued : Begins IsValued post → r.cause? = some .valueUnexpected
  /-- After the separator comes the program with its arguments, which have to be UTF-8. -/
  unread : EndsUnread post → r = .illFormed
  /-- In every other case the option is refused for its own fault. -/
  otherwise : ¬Begins IsUnknown post → ¬Begins IsValued post → ¬EndsUnread post → r = u.fault

end Unfinished

/-- What is said about a missing value names the option. -/
theorem text_valueMissing (f : Format) :
    (Refusal.valueMissing f).text = "error: a value is required for '--".toList ++ f.name ++
      " <PATH>' but none was supplied\n\nFor more information, try '--help'.\n".toList := by
  cases f <;> decide

/-! ## States that cannot be settled -/

/-- Tokens are read as texts together exactly if each of them is. -/
theorem isSome_mapM_toText? (tokens : List Bytes) :
    (tokens.mapM Bytes.toText?).isSome = tokens.all (·.toText?.isSome) := by
  induction tokens with
  | nil => rfl
  | cons t ts ih =>
    rw [List.mapM_cons, List.all_cons, ← ih]
    cases t.toText? with
    | none => rfl
    | some text => cases ts.mapM Bytes.toText? <;> rfl

namespace State

variable {s : State} {r : Refusal}

/-- At the end of the command line the option is settled. -/
theorem close_unsettled (unsettled : s.settle = .error r) : s.close = .error r := by
  rw [close, unsettled]
  rfl

/-- Before an option with its value takes effect, the one before it is settled. -/
theorem attach_unsettled (unsettled : s.settle = .error r) (f : Format) (value : Bytes) :
    s.attach f value = .error r := by
  rw [attach, unsettled]
  rfl

/-- Before an option without a value takes effect, the one before it is settled. -/
theorem await_unsettled (unsettled : s.settle = .error r) (f : Format) : s.await f = .error r := by
  rw [await, unsettled]
  rfl

/-- Before a flag takes effect, the option is settled. -/
theorem refuse_unsettled (unsettled : s.settle = .error r) (f : Flag) : s.refuse f = r := by
  rw [refuse, unsettled]

/-- The program and its arguments are read first, and the option is settled after them. -/
theorem finish_unsettled (unsettled : s.settle = .error r) (p : Bytes) (as : List Bytes) :
    s.finish p as = .error (if (p :: as).all (·.toText?.isSome) then r else .illFormed) := by
  rw [List.all_cons, ← isSome_mapM_toText?, finish, unsettled]
  cases p.toText? with
  | none => rfl
  | some program => cases as.mapM Bytes.toText? <;> rfl

end State

namespace Stem

/-- An unfinished option cannot be settled. -/
theorem settle_unfinished (items : List Item) (u : Unfinished) :
    (Stem.mk items (some u)).state.settle = .error u.fault := by
  cases u with
  | bare f => rfl
  | illFormed f value undashed unread =>
    simp only [state, State.settle, unread]
    rfl

/-- How a stem with an unfinished option is written. -/
theorem tokens_unfinished (items : List Item) (u : Unfinished) :
    (Stem.mk items (some u)).tokens = written items ++ u.tokens := rfl

end Stem

/-! ## Continuations -/

/-- A separator is followed by the program with its arguments, or ends the command line. -/
theorem readFrom_separator_unsettled {s : State} {r : Refusal} (unsettled : s.settle = .error r)
    (rest : List Bytes) :
    readFrom s (separator :: rest) =
      .error (if rest.all (·.toText?.isSome) then r else .illFormed) := by
  cases rest with
  | nil => exact State.close_unsettled unsettled
  | cons p as => exact State.finish_unsettled unsettled p as

/-- A program or an argument that is not UTF-8 is refused before an unfinished option. -/
theorem read_endsUnread (items : List Item) (u : Unfinished) {post : List Bytes} (h : EndsUnread post) :
    read (written items ++ u.tokens ++ post) = .error .illFormed := by
  obtain ⟨rest, rfl, t, mem, unread⟩ := h
  have some_unread : ¬rest.all (·.toText?.isSome) := by
    intro all
    have readable := List.all_eq_true.mp all t mem
    rw [unread] at readable
    cases readable
  rw [← Stem.tokens_unfinished, read_stem, readFrom_separator_unsettled (Stem.settle_unfinished items u),
    if_neg some_unread]

/-- A known option or flag settles the option before it takes effect. -/
theorem readFrom_known_unsettled {s : State} {r : Refusal} (unsettled : s.settle = .error r) {t : Bytes}
    (dashed : ¬IsWord t) (separate : t ≠ separator) (known : ¬IsUnknown t) (unvalued : ¬IsValued t)
    (rest : List Bytes) : readFrom s (t :: rest) = .error r := by
  cases shape : Shape.of t with
  | word => exact absurd (shape_eq_word_iff.1 shape) dashed
  | separator => exact absurd (shape_eq_separator_iff.1 shape) separate
  | long name attached =>
    simp only [readFrom, shape]
    split
    case h_1 f value name =>
      rw [State.attach_unsettled unsettled]
    case h_2 f name =>
      rw [State.await_unsettled unsettled]
    case h_3 f value name =>
      obtain rfl := name_of?_eq_some_iff.1 name
      exact absurd ⟨f, value, shape_eq_valued_iff.1 shape⟩ unvalued
    case h_4 f name =>
      rw [State.refuse_unsettled unsettled]
    case h_5 name =>
      exact absurd (.inl (isUnknownLong_iff.2 ⟨_, _, shape, name⟩)) known
  | cluster letters =>
    obtain ⟨x, letters, other, rfl, rfl⟩ := shape_eq_cluster_iff.1 shape
    by_cases letter : ∃ f : Flag, x = f.letter
    · obtain ⟨f, rfl⟩ := letter
      simp only [readFrom, shape]
      rw [State.cluster_letter, State.refuse_unsettled unsettled]
    · have unknown : ∀ f : Flag, x ≠ f.letter := fun f same => letter ⟨f, same⟩
      exact absurd (.inr ⟨x, letters, rfl, other, unknown⟩) known

/-- A word after an option that holds a value is the program. -/
theorem readFrom_word_holding {s : State} {f : Format} {value t : Bytes} (holding : s.pending = .holding f value)
    (word : IsWord t) (rest : List Bytes) : readFrom s (t :: rest) = s.finish t rest := by
  simp only [readFrom, shape_word word, holding]

/-- **An option that stays unfinished is refused for its own fault**, unless what follows is refused without a look at
it. -/
theorem read_fault (items : List Item) (u : Unfinished) {post : List Bytes} (stays : u.Stays post)
    (known : ¬Begins IsUnknown post) (unvalued : ¬Begins IsValued post) (readable : ¬EndsUnread post) :
    read (written items ++ u.tokens ++ post) = .error u.fault := by
  have unsettled := Stem.settle_unfinished items u
  rw [← Stem.tokens_unfinished, read_stem]
  rcases post with _ | ⟨t, rest⟩
  · exact State.close_unsettled unsettled
  by_cases separate : t = separator
  · subst separate
    have all : rest.all (·.toText?.isSome) := by
      rw [List.all_eq_true]
      intro b mem
      rw [Option.isSome_iff_ne_none]
      intro unread
      exact readable ⟨rest, rfl, b, mem, unread⟩
    rw [readFrom_separator_unsettled unsettled, if_pos all]
  by_cases word : IsWord t
  · cases u with
    | bare f =>
      -- A word would be the value of the option.
      obtain ⟨dashed, more⟩ := stays t rfl
      rcases word with dash | undashed
      · exact absurd dash more
      · exact absurd dashed undashed
    | illFormed f value =>
      -- Either the program is not UTF-8, or an argument, or the value is left to blame: the refusal is the same.
      rw [readFrom_word_holding rfl word, State.finish_unsettled unsettled]
      exact congrArg Except.error (ite_self _)
  · have known : ¬IsUnknown t := fun h => known ⟨t, rfl, h⟩
    have unvalued : ¬IsValued t := fun h => unvalued ⟨t, rfl, h⟩
    exact readFrom_known_unsettled unsettled word separate known unvalued rest

/-- A token that is refused for a cause after any stem is refused for it after an unfinished option. -/
theorem exists_read_begins {p : Bytes → Prop} {c : Cause}
    (refuses : ∀ {t}, p t → ∃ r : Refusal, r.cause? = some c ∧
      ∀ (stem : Stem) (post : List Bytes), read (stem.tokens ++ t :: post) = .error r)
    (items : List Item) (u : Unfinished) {post : List Bytes} (h : Begins p post) :
    ∃ r : Refusal, read (written items ++ u.tokens ++ post) = .error r ∧ r.cause? = some c := by
  obtain ⟨t, first, holds⟩ := h
  obtain ⟨rest, rfl⟩ := List.head?_eq_some_iff.1 first
  obtain ⟨r, cause, refused⟩ := refuses holds
  exact ⟨r, refused ⟨items, some u⟩ rest, cause⟩

/-- No continuation makes up for an unfinished option. -/
theorem exists_read_unfinished (items : List Item) (u : Unfinished) {post : List Bytes} (stays : u.Stays post) :
    ∃ r, read (written items ++ u.tokens ++ post) = .error r := by
  by_cases unknown : Begins IsUnknown post
  · obtain ⟨r, refused, -⟩ := exists_read_begins exists_read_isUnknown items u unknown
    exact ⟨r, refused⟩
  by_cases valued : Begins IsValued post
  · obtain ⟨r, refused, -⟩ := exists_read_begins exists_read_isValued items u valued
    exact ⟨r, refused⟩
  by_cases unread : EndsUnread post
  · exact ⟨_, read_endsUnread items u unread⟩
  · exact ⟨_, read_fault items u stays unknown valued unread⟩

/-- The refusal of an unfinished option is the one that its continuation leads to. -/
theorem verdict_of_read (items : List Item) (u : Unfinished) {post : List Bytes} (stays : u.Stays post) {r : Refusal}
    (refused : read (written items ++ u.tokens ++ post) = .error r) : u.Verdict post r := by
  -- There is one refusal, so that each way to know it is a way to know `r`.
  have same : ∀ {r'}, read (written items ++ u.tokens ++ post) = .error r' → r = r' := by
    intro r' refused'
    rw [refused] at refused'
    exact Except.error.inj refused'
  constructor
  case unknown =>
    intro h
    obtain ⟨r', refused', cause⟩ := exists_read_begins exists_read_isUnknown items u h
    rw [same refused', cause]
  case valued =>
    intro h
    obtain ⟨r', refused', cause⟩ := exists_read_begins exists_read_isValued items u h
    rw [same refused', cause]
  case unread =>
    intro h
    exact same (read_endsUnread items u h)
  case otherwise =>
    intro unknown valued unread
    exact same (read_fault items u stays unknown valued unread)

/-- The causes to which a continuation can lead, besides a bad value. -/
theorem Unfinished.Verdict.cause {u : Unfinished} {post : List Bytes} {r : Refusal} (v : u.Verdict post r) {c : Cause}
    (h : r.cause? = some c) : c = .unknown ∨ c = .valueUnexpected := by
  by_cases unknown : Begins IsUnknown post
  · exact .inl (Option.some.inj (h.symm.trans (v.unknown unknown)))
  by_cases valued : Begins IsValued post
  · exact .inr (Option.some.inj (h.symm.trans (v.valued valued)))
  by_cases unread : EndsUnread post
  · rw [v.unread unread] at h
    cases h
  · rw [v.otherwise unknown valued unread] at h
    cases u <;> cases h

/-- **An option without a usable value is never forgiven, and what follows it decides the refusal.**  After any complete
items, an option without a value that is not given one, or with a value that is not UTF-8, is refused whatever follows,
by its verdict.  That is always a mistake: never a wish, and never the lack of a program.  Where a value is missing, the
option is named. -/
theorem read_unfinished (items : List Item) (u : Unfinished) (post : List Bytes) (stays : u.Stays post) :
    ∃ r, read (written items ++ u.tokens ++ post) = .error r ∧ u.Verdict post r ∧ r.isMistake ∧
      (∀ c, r.cause? = some c → c = .unknown ∨ c = .valueUnexpected) ∧
      ∀ f, r = .valueMissing f →
        r.text = "error: a value is required for '--".toList ++ f.name ++
          " <PATH>' but none was supplied\n\nFor more information, try '--help'.\n".toList := by
  obtain ⟨r, refused⟩ := exists_read_unfinished items u stays
  have verdict := verdict_of_read items u stays refused
  refine ⟨r, refused, verdict, ?_, ?_, ?_⟩
  · cases r with
    | shown f =>
      obtain wish | wish := verdict.cause rfl
      · cases wish
      · cases wish
    | _ => rfl
  · intro c cause
    exact verdict.cause cause
  · rintro f rfl
    exact text_valueMissing f

/-- At the end of the command line the option is named; after the separator, an argument that is not UTF-8 is refused
before it. -/
theorem unfinished_before_end_and_separator :
    (Unfinished.bare .csv).Stays [] ∧ (Unfinished.bare .csv).Stays [separator, Text.toUtf8 ['p'], [0xFF]] ∧
      read [attachedToken .xml ['x'], optionToken .csv] = .error (.valueMissing .csv) ∧
      read [attachedToken .xml ['x'], optionToken .csv, separator, Text.toUtf8 ['p'], [0xFF]] =
        .error .illFormed := by
  have ends : (Unfinished.bare .csv).Stays [] := by simp [Unfinished.Stays]
  have separated : (Unfinished.bare .csv).Stays [separator, Text.toUtf8 ['p'], [0xFF]] := by
    intro t first
    cases first
    exact ⟨rfl, by decide⟩
  obtain ⟨r, missing, verdict, -⟩ := read_unfinished [.attached .xml ['x']] (.bare .csv) [] ends
  obtain ⟨r', unread, verdict', -⟩ := read_unfinished [.attached .xml ['x']] (.bare .csv) _ separated
  rw [verdict.otherwise (by simp [Begins]) (by simp [Begins]) (by simp [EndsUnread])] at missing
  rw [verdict'.unread ⟨_, rfl, [0xFF], by simp, rfl⟩] at unread
  exact ⟨ends, separated, missing, unread⟩

end ProgramTrace.CommandLine
