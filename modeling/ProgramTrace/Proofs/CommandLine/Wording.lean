import ProgramTrace.Failure
import ProgramTrace.Proofs.CommandLine.Refusals
import ProgramTrace.Proofs.Terminal.Quiet

/-!
# `ProgramTrace.Proofs.CommandLine.Wording` — what a refusal shows of the token at fault.

Most of what is said about a refusal is fixed.  Three refusals show a part of the token that they blame, between
quotes: an unknown name, an unknown letter, and a value attached to a flag.  These come from outside and can
hold anything, terminal control included, and bytes that are not UTF-8.

Whatever they hold, what is said is quiet, and the fixed words around the quotes stand (`Refusal.Worded`), since what
is shown of a token is a span in a style of its own.  And what can be read and is quiet itself is shown as it is
(`quoted?_of_atFault`).

So there are three ways in which a refusal is said, plain, to a stream and in colour, and they say the same
(`Refusal.says_printed`): in colour the plain text is what is left without terminal control, and to a stream the
words are those of the plain text, which can only differ in what is shown of a token that is not quiet.
-/

namespace ProgramTrace.CommandLine

open Terminal

/-! ## What is shown -/

namespace Refusal

/-- What a refusal shows of the token at fault, if it blames one. -/
def quoted? : Refusal → Option Text
  | .unknownLong name => some ("--".toList ++ name)
  | .unknownLetters letters => some ('-' :: letters)
  | .valueUnexpected _ value => some value
  | _ => none

/-- How what is said begins if `left` is shown of the token at fault. -/
def opening (left : Text) : Refusal → Text
  | .valueUnexpected f _ =>
    "error: unexpected value '".toList ++ left ++
      ("' for '--".toList ++ f.name ++ "' found; no more were expected".toList)
  | _ => "error: unexpected argument '".toList ++ left ++ "' found".toList

/-- How a mistake is put right: the usage line, and where to read on. -/
def directions : Text :=
  ("\n\nUsage: cg-trace [--csv PATH] [--xml PATH] PROGNAME [ARG ...]" ++
    "\n\nFor more information, try '--help'.\n").toList

/-- How what is said ends after that, for a mistaken name with what it may be meant for. -/
def closing : Refusal → Text
  | .unknownLong name => (suggestion name).flatMap Span.text ++ directions
  | _ => directions

theorem directions_eq : (words "\n\n" :: (usage ++ advice)).flatMap Span.text = directions := by rfl

/-- The spans of a report before what it shows of a token. -/
def lead (what : String) : Message := [styled .error "error:", words " ", words what]

theorem quiet_suggestion (name : Text) : ∀ span ∈ suggestion name, Quiet span.text := by
  unfold suggestion
  split
  · exact fun _ none => absurd none List.not_mem_nil
  · rename_i known closest
    have quiet : ∀ known ∈ knownNames, Quiet known := by decide
    have known := quiet known (Similarity.mem_of_closest? closest)
    have fixed : Quiet (words "\n\n  ").text ∧ Quiet (styled .valid "tip:").text ∧
        Quiet (words " a similar argument exists: '").text ∧ Quiet "--".toList ∧ Quiet (words "'").text := by decide
    simp only [List.mem_cons, List.not_mem_nil, or_false, forall_eq_or_imp, forall_eq, quiet_append]
    exact ⟨fixed.1, fixed.2.1, fixed.2.2.1, ⟨fixed.2.2.2.1, known⟩, fixed.2.2.2.2⟩

/-- What is shown of the token at fault is a span of the message, in a style and between fixed words. -/
theorem exists_message_eq {r : Refusal} {shown : Text} (h : r.quoted? = some shown) :
    ∃ (front back : Message) (span : Span),
      r.message = front ++ span :: back ∧ span.text = shown ∧ span.style ≠ .normal ∧
      (∀ other ∈ front ++ back, Quiet other.text) ∧
      ∀ left, front.flatMap Span.text ++ left ++ back.flatMap Span.text = r.opening left ++ r.closing := by
  have ending : ∀ other ∈ words "\n\n" :: (usage ++ advice), Quiet other.text := by decide
  cases r with
  | unknownLong name =>
    cases h
    refine ⟨lead "unexpected argument '", words "' found" :: (suggestion name ++ words "\n\n" :: (usage ++ advice)),
      ⟨.invalid, "--".toList ++ name⟩, ?_, rfl, nofun, ?_, ?_⟩
    · simp [message, report, lead]
    · have fixed : ∀ other ∈ lead "unexpected argument '" ++ [words "' found"], Quiet other.text := by decide
      have tip := quiet_suggestion name
      rw [List.append_cons, List.forall_mem_append]
      exact ⟨fixed, List.forall_mem_append.mpr ⟨tip, ending⟩⟩
    · intro left
      rw [List.flatMap_cons, List.flatMap_append, directions_eq, ← List.append_assoc]
      rfl
  | unknownLetters letters =>
    cases h
    refine ⟨lead "unexpected argument '", words "' found" :: words "\n\n" :: (usage ++ advice),
      ⟨.invalid, '-' :: letters⟩, ?_, rfl, nofun, by decide, ?_⟩
    · simp [message, report, lead]
    · intro left
      rw [List.flatMap_cons, directions_eq, ← List.append_assoc]
      rfl
  | valueUnexpected f =>
    cases h
    refine ⟨lead "unexpected value '",
      [words "' for '", ⟨.literal, "--".toList ++ f.name⟩, words "' found; no more were expected"] ++
        words "\n\n" :: (usage ++ advice), ⟨.invalid, shown⟩, ?_, rfl, nofun, ?_, ?_⟩
    · simp [message, report, lead]
    · cases f <;> decide
    · intro left
      rw [List.flatMap_append, directions_eq, ← List.append_assoc]
      cases f <;> rfl
  | _ => cases h

/-- Where nothing is shown of a token, a message is quiet. -/
theorem quiet_of_quoted?_eq_none {r : Refusal} (h : r.quoted? = none) : ∀ span ∈ r.message, Quiet span.text := by
  cases r with
  | shown f => cases f <;> decide
  | valueMissing f => cases f <;> decide
  | nothingGiven | programMissing | programUnnamed | illFormed => decide
  | unknownLong | unknownLetters | valueUnexpected => cases h

/-- The words of a refusal: those of its message, with something quiet for what is shown of the token at fault, and with
that itself if it is quiet. -/
inductive Worded (r : Refusal) : Text → Prop
  | fixed (none : r.quoted? = none) : Worded r (r.message.flatMap Span.text)
  | quoting {shown left : Text} (some : r.quoted? = some shown) (quiet : Quiet left)
      (same : Quiet shown → left = shown) : Worded r (r.opening left ++ r.closing)

/-- **What is shown of the message of a refusal has its words**, whatever the token at fault holds. -/
theorem worded_sift {σ : Type} {next : σ → Char → Text × σ} {outside : σ → Prop} {s : σ} (sieve : Sieve next outside)
    (hs : outside s) (r : Refusal) : r.Worded (sift next s (Message.coloured r.message)) := by
  cases quoted : r.quoted? with
  | none =>
    rw [(sieve.shows_message (quiet_of_quoted?_eq_none quoted) s hs).1]
    exact .fixed quoted
  | some shown =>
    obtain ⟨front, back, span, spans, rfl, styled, quiet, words⟩ := exists_message_eq quoted
    obtain ⟨left, clean, same, shows⟩ := sieve.exists_sift_eq hs quiet styled
    rw [spans, shows, words]
    exact .quoting quoted clean same

/-- The plain text of a refusal has its words. -/
theorem worded_text (r : Refusal) : r.Worded r.text := by
  rw [text, Message.plain_eq_sift]
  exact r.worded_sift sieve_step rfl

/-- What a stream gets of it has them too. -/
theorem worded_printed (r : Refusal) : r.Worded (r.printed false) := by
  show r.Worded r.message.streamed
  rw [Message.streamed_eq_sift]
  exact r.worded_sift Walk.sieve_step rfl

variable {r : Refusal} {said said' shown : Text}

theorem Worded.opening_isPrefix (h : r.Worded said) (quoted : r.quoted? = some shown) :
    ∃ left, Quiet left ∧ (Quiet shown → left = shown) ∧ r.opening left <+: said := by
  cases h with
  | fixed none => cases none.symm.trans quoted
  | @quoting shown' left quoted' quiet same =>
    obtain rfl := Option.some.inj (quoted'.symm.trans quoted)
    exact ⟨left, quiet, same, List.prefix_append ..⟩

/-- Where nothing is shown of a token, or something quiet, the words are the same however they are said. -/
theorem Worded.unique (h : r.Worded said) (h' : r.Worded said') (quiet : ∀ shown, r.quoted? = some shown → Quiet shown) :
    said = said' := by
  cases h with
  | fixed none =>
    cases h' with
    | fixed => rfl
    | quoting quoted => cases none.symm.trans quoted
  | quoting quoted _ same =>
    cases h' with
    | fixed none => cases none.symm.trans quoted
    | quoting quoted' _ same' => rw [same (quiet _ quoted), same' (quiet _ quoted'),
        Option.some.inj (quoted.symm.trans quoted')]

/-- How what is said about a refusal begins. -/
def headline : Refusal → Text
  | .shown .help | .nothingGiven => "Launch a program and record its trace session\n".toList
  | .shown .version => "cg-trace 0.1.0\n".toList
  | _ => "error: ".toList

theorem headline_isPrefix_opening (quoted : r.quoted? = some shown) (left : Text) : r.headline <+: r.opening left := by
  have argument : "error: unexpected argument '".toList = "error: ".toList ++ "unexpected argument '".toList := by decide
  have value : "error: unexpected value '".toList = "error: ".toList ++ "unexpected value '".toList := by decide
  cases r with
  | unknownLong | unknownLetters =>
    show "error: ".toList <+: "error: unexpected argument '".toList ++ left ++ "' found".toList
    rw [argument, List.append_assoc, List.append_assoc]
    exact List.prefix_append ..
  | valueUnexpected f =>
    show "error: ".toList <+: "error: unexpected value '".toList ++ left ++
      ("' for '--".toList ++ f.name ++ "' found; no more were expected".toList)
    rw [value, List.append_assoc, List.append_assoc]
    exact List.prefix_append ..
  | _ => cases quoted

theorem Worded.headline_isPrefix (h : r.Worded said) : r.headline <+: said := by
  cases h with
  | fixed none =>
    cases r with
    | shown f => cases f <;> decide
    | valueMissing f => cases f <;> decide
    | nothingGiven | programMissing | programUnnamed | illFormed => decide
    | unknownLong | unknownLetters | valueUnexpected => cases none
  | quoting quoted => exact (headline_isPrefix_opening quoted _).trans (List.prefix_append ..)

/-- A text says a refusal.  In colour the message is what is left of it without terminal control; otherwise it has the
words of the message, and is the message itself if nothing is shown of a token, or something quiet. -/
structure Says (r : Refusal) (colour : Bool) (said : Text) : Prop where
  message : r.Worded r.text
  headline : r.headline <+: r.text
  coloured : colour → strip said = r.text
  plain : ¬colour → r.Worded said
  same : ¬colour → (∀ shown, r.quoted? = some shown → Quiet shown) → said = r.text

/-- **What is printed about a refusal says it**, in colour and without. -/
theorem says_printed (r : Refusal) (colour : Bool) : r.Says colour (r.printed colour) where
  message := r.worded_text
  headline := r.worded_text.headline_isPrefix
  coloured := by
    rintro rfl
    rfl
  plain := by
    intro plain
    rw [Bool.eq_false_iff.mpr plain]
    exact r.worded_printed
  same := by
    intro plain quiet
    rw [Bool.eq_false_iff.mpr plain]
    exact r.worded_printed.unique r.worded_text quiet

end Refusal

/-! ## Tokens at fault -/

/-- A token is at fault with a text that can be read: an unknown long name up to its first `=`, an unknown letter
after one dash, whatever follows it, or the value attached to a flag. -/
inductive AtFault : Bytes → Text → Prop
  | name {rest : Bytes} {name : Text} (longer : rest ≠ [])
      (upTo : rest.takeWhile (· ≠ equals) = name.toUtf8) (unknown : ∀ known : Name, name ≠ known.text) :
      AtFault (dash :: dash :: rest) ("--".toList ++ name)
  | letter {c : Char} (unknown : c ∉ ['-', 'h', 'V']) (rest : Bytes) :
      AtFault (dash :: (String.utf8EncodeChar c ++ rest)) ['-', c]
  | value (f : Flag) (value : Text) : AtFault (flagToken f ++ equals :: value.toUtf8) value

/-- Letters that begin with an unknown one are refused for it. -/
theorem State.cluster_char (s : State) {c : Char} (unknown : c ∉ ['-', 'h', 'V']) (rest : Bytes) :
    s.cluster (String.utf8EncodeChar c ++ rest) = .unknownLetters [c] := by
  have first : (Utf8.scan none (String.utf8EncodeChar c ++ rest)).head? = some (some c) := by
    rw [Utf8.scan_utf8EncodeChar]
    rfl
  rw [State.cluster, first]
  split <;> simp_all

/-- The first byte of a character other than a dash is no dash. -/
theorem exists_cons_utf8EncodeChar {c : Char} (other : c ≠ '-') (rest : Bytes) :
    ∃ x bytes, x ≠ dash ∧ String.utf8EncodeChar c ++ rest = x :: bytes := by
  cases bytes : String.utf8EncodeChar c ++ rest with
  | nil =>
    have scanned := Utf8.scan_utf8EncodeChar c rest
    rw [bytes] at scanned
    cases scanned
  | cons x more =>
    refine ⟨x, more, ?_, rfl⟩
    rintro rfl
    have first := (Utf8.head?_scan_eq_ascii_iff (c := '-') (b := dash) (by decide) (by decide) more).2 rfl
    rw [← bytes, Utf8.scan_utf8EncodeChar] at first
    exact other (by simpa using first)

/-- **A token at fault is shown as it can be read**, after any stem and whatever follows. -/
theorem quoted?_of_atFault {t : Bytes} {shown : Text} (h : AtFault t shown) (stem : Stem) (post : List Bytes) :
    ∃ r : Refusal, read (stem.tokens ++ t :: post) = .error r ∧ r.quoted? = some shown := by
  cases h with
  | @name rest name longer upTo unknown =>
    have lossy : Bytes.toTextLossy (splitAttached rest).1 = name := by
      rw [splitAttached_fst, upTo]
      exact toTextLossy_of_toText? (toText?_toUtf8 name)
    have unlisted : Name.of? (splitAttached rest).1 = none := by
      rw [name_of?_eq_none_iff, splitAttached_fst, upTo]
      intro known same
      have read := toText?_toUtf8 name
      rw [same, toText?_toUtf8] at read
      exact unknown known (Option.some.inj read).symm
    refine ⟨.unknownLong name, ?_, rfl⟩
    simp only [read_stem, readFrom, shape_long longer, unlisted, lossy]
  | @letter c unknown rest =>
    obtain ⟨x, bytes, other, split⟩ := exists_cons_utf8EncodeChar (c := c) (by rintro rfl; simp at unknown) rest
    refine ⟨.unknownLetters [c], ?_, rfl⟩
    rw [read_stem, split]
    simp only [readFrom, shape_cluster other]
    rw [← split, State.cluster_char _ unknown]
  | value f =>
    refine ⟨.valueUnexpected f shown, ?_, rfl⟩
    have lossy := toTextLossy_of_toText? (toText?_toUtf8 shown)
    simp only [read_stem, readFrom, shape_eq_valued_iff.2 rfl, name_of?_flag, lossy]

/-- What a refusal shows is of a token with an unknown name or letter, or with a value where none can be, after a
stem. -/
theorem exists_stem_of_quoted? {tokens : List Bytes} {r : Refusal} (refused : read tokens = .error r)
    {shown : Text} (quoted : r.quoted? = some shown) :
    ∃ (stem : Stem) (t : Bytes) (post : List Bytes),
      tokens = stem.tokens ++ t :: post ∧ (IsUnknown t ∨ IsValued t) := by
  have explained : Explained tokens (read tokens) := explained_readFrom (.closed []) tokens
  rw [refused] at explained
  cases r with
  | unknownLong | unknownLetters =>
    obtain ⟨stem, t, post, split, unknown⟩ := explained .unknown rfl
    exact ⟨stem, t, post, split, .inl unknown⟩
  | valueUnexpected =>
    obtain ⟨stem, t, post, split, valued⟩ := explained .valueUnexpected rfl
    exact ⟨stem, t, post, split, .inr valued⟩
  | _ => cases quoted

/-! ## What is said -/

/-- **No command line gets terminal control into what is said about it.**  Whatever its tokens hold, the message
about a refusal has no control character but tab, line feed, form feed and carriage return, nor has what is
printed unless colour is asked for.  Where something is shown, there is a token at fault, and the words around
what is shown of it stand.  A name, a letter or a value at fault that can be read, and is quiet, is shown between
them as it is. -/
theorem quiet_message_of_read {tokens : List Bytes} {r : Refusal} (refused : read tokens = .error r) {said : Text}
    (plain : said = (Failure.usage r).message ∨ said = r.printed false) :
    Quiet said ∧
    (∀ shown, r.quoted? = some shown →
      (∃ (stem : Stem) (t : Bytes) (post : List Bytes),
        tokens = stem.tokens ++ t :: post ∧ (IsUnknown t ∨ IsValued t)) ∧
      ∃ left, Quiet left ∧ r.opening left <+: said) ∧
    ∀ (stem : Stem) (t : Bytes) (post : List Bytes) (shown : Text),
      tokens = stem.tokens ++ t :: post → AtFault t shown → Quiet shown →
        r.quoted? = some shown ∧ r.opening shown <+: said := by
  have worded : r.Worded said := by
    rcases plain with rfl | rfl
    · exact r.worded_text
    · exact r.worded_printed
  refine ⟨?_, ?_, ?_⟩
  · rcases plain with rfl | rfl
    · exact Message.quiet_plain _
    · exact Message.quiet_streamed _
  · intro shown quoted
    obtain ⟨left, clean, -, begins⟩ := worded.opening_isPrefix quoted
    exact ⟨exists_stem_of_quoted? refused quoted, left, clean, begins⟩
  · rintro stem t post shown rfl fault quiet
    obtain ⟨r', refused', quoted⟩ := quoted?_of_atFault fault stem post
    obtain rfl : r = r' := Except.error.inj (refused.symm.trans refused')
    obtain ⟨left, -, same, begins⟩ := worded.opening_isPrefix quoted
    obtain rfl := same quiet
    exact ⟨quoted, begins⟩

/-- A misspelt option is named as it is, though the value attached to it would clear the screen; of a value that
would leave colours behind nothing of that kind is printed. -/
theorem quiet_message_of_misspelt_option :
    read [optionToken .csv, Text.toUtf8 "--cvs=\x1b[2J".toList] = .error (.unknownLong "cvs".toList) ∧
    AtFault (Text.toUtf8 "--cvs=\x1b[2J".toList) "--cvs".toList ∧ Quiet "--cvs".toList ∧
    Quiet (Failure.usage (.unknownLong "cvs".toList)).message ∧
    "error: unexpected argument '--cvs' found".toList <+: (Failure.usage (.unknownLong "cvs".toList)).message ∧
    read [Text.toUtf8 "--help=\x1b[31m\x1b".toList] = .error (.valueUnexpected .help "\x1b[31m\x1b".toList) ∧
    Quiet (Refusal.printed false (.valueUnexpected .help "\x1b[31m\x1b".toList)) := by
  have misspelt : read [optionToken .csv, Text.toUtf8 "--cvs=\x1b[2J".toList] =
      .error (.unknownLong "cvs".toList) := by rfl
  have valued : read [Text.toUtf8 "--help=\x1b[31m\x1b".toList] =
      .error (.valueUnexpected .help "\x1b[31m\x1b".toList) := by rfl
  have fault : AtFault (Text.toUtf8 "--cvs=\x1b[2J".toList) "--cvs".toList := by
    have unknown : ∀ known : Name, "cvs".toList ≠ known.text := by rintro ((_ | _) | (_ | _)) <;> decide
    exact @AtFault.name (Text.toUtf8 "cvs=\x1b[2J".toList) "cvs".toList (by decide) (by decide) unknown
  have letters : Quiet "--cvs".toList := by decide
  obtain ⟨quiet, -, named⟩ := quiet_message_of_read misspelt (.inl rfl)
  obtain ⟨quiet', -, -⟩ := quiet_message_of_read valued (.inr rfl)
  have begins := (named ⟨[], some (.bare .csv)⟩ _ [] "--cvs".toList rfl fault letters).2
  exact ⟨misspelt, fault, letters, quiet, begins, valued, quiet'⟩

end ProgramTrace.CommandLine
