import Mathlib.Data.Set.Function
import Mathlib.Data.Set.List
import ProgramTrace.Proofs.Export.CsvRoundTrip

/-!
# `ProgramTrace.Proofs.Export.ArgumentsCell` — which texts are the cell of some arguments.

The grammar of a cell (`IsCell`) speaks of the text alone: nothing, or items with a single space between two of
them, an item being two quotes around characters other than a quote and pairs of quotes.  It does not say which
quote opens an item, which closes it and which is half of a pair, and a run of quotes next to a space could be
taken apart in several ways.

There is one way only.  That written cells match the grammar is a matter of its two layers (`isDoubled_iff`,
`isItem_iff`, `isCell_iff`).  That nothing else is read is an invariant of the reader of cells: at every
character, what it has collected so far, written again, is what it has read so far (`Items.Holds`).  So a cell
that is read at all is the one that is written for what is read (`readItems_eq_some_iff`), and
`argumentsCell_unambiguous` puts the two together.
-/

namespace ProgramTrace.Export.Csv

/-! ## The grammar -/

/-- What can stand between the quotes of an item: characters other than a quote, and pairs of quotes. -/
inductive IsDoubled : Text → Prop
  | nil : IsDoubled []
  | other {c : Char} {t : Text} (noQuote : c ≠ '"') (rest : IsDoubled t) : IsDoubled (c :: t)
  | pair {t : Text} (rest : IsDoubled t) : IsDoubled ('"' :: '"' :: t)

/-- An item: a quote, what can stand between quotes, and a quote. -/
def IsItem (item : Text) : Prop := ∃ body, IsDoubled body ∧ item = '"' :: body ++ ['"']

/-- A cell: nothing, or one or more items with a single space between two of them. -/
inductive IsCell : Text → Prop
  | empty : IsCell []
  | items {items : List Text} (some : items ≠ []) (each : ∀ item ∈ items, IsItem item) :
      IsCell ([' '].intercalate items)

/-! ## What the grammar describes -/

/-- Between quotes stand exactly the texts with each of their quotes written twice. -/
theorem isDoubled_iff {body : Text} : IsDoubled body ↔ ∃ t, doubled t = body := by
  constructor
  · intro h
    induction h with
    | nil => exact ⟨[], rfl⟩
    | @other c _ noQuote rest ih =>
      obtain ⟨t, rfl⟩ := ih
      exact ⟨c :: t, if_neg noQuote⟩
    | pair rest ih =>
      obtain ⟨t, rfl⟩ := ih
      exact ⟨'"' :: t, if_pos rfl⟩
  · rintro ⟨t, rfl⟩
    induction t with
    | nil => exact .nil
    | cons c cs ih =>
      rw [doubled]
      split
      case isTrue => exact .pair ih
      case isFalse noQuote => exact .other noQuote ih

/-- The items are exactly the texts in quotes. -/
theorem isItem_iff {item : Text} : IsItem item ↔ item ∈ Set.range quoted := by
  constructor
  · rintro ⟨body, inside, rfl⟩
    obtain ⟨t, rfl⟩ := isDoubled_iff.1 inside
    exact ⟨t, rfl⟩
  · rintro ⟨t, rfl⟩
    exact ⟨doubled t, isDoubled_iff.2 ⟨t, rfl⟩, rfl⟩

/-- Lists of items are exactly the lists of texts in quotes. -/
theorem forall_isItem_iff {items : List Text} :
    (∀ item ∈ items, IsItem item) ↔ ∃ arguments : List Text, arguments.map quoted = items := by
  have range := Set.ext_iff.1 (Set.range_list_map quoted) items
  simp only [isItem_iff]
  exact range.symm

/-- **The cells are exactly the texts that are written for some arguments.** -/
theorem isCell_iff {cell : Text} : IsCell cell ↔ ∃ arguments, argumentsCell arguments = cell := by
  constructor
  · rintro (_ | ⟨-, each⟩)
    · exact ⟨[], rfl⟩
    · obtain ⟨arguments, rfl⟩ := forall_isItem_iff.1 each
      exact ⟨arguments, rfl⟩
  · rintro ⟨arguments, rfl⟩
    by_cases none : arguments = []
    · subst none
      exact .empty
    · exact .items (by simpa using none) (forall_isItem_iff.2 ⟨arguments, rfl⟩)

/-! ## What the reader has read -/

/-- Doubling goes character by character. -/
theorem doubled_append (s t : Text) : doubled (s ++ t) = doubled s ++ doubled t := by
  induction s with
  | nil => rfl
  | cons c cs ih =>
    simp only [List.cons_append, doubled, ih]
    split <;> rfl

/-- The cell with one argument more. -/
theorem argumentsCell_concat (arguments : List Text) (t : Text) :
    argumentsCell (arguments ++ [t]) = (arguments.flatMap fun u => quoted u ++ [' ']) ++ quoted t := by
  induction arguments with
  | nil => simp [argumentsCell]
  | cons u us ih =>
    have more : argumentsCell (u :: (us ++ [t])) = quoted u ++ ' ' :: argumentsCell (us ++ [t]) := by
      obtain ⟨v, vs, split⟩ := List.exists_cons_of_ne_nil (l := us ++ [t]) (by simp)
      rw [split]
      simp [argumentsCell]
    rw [List.cons_append, more, ih]
    simp

namespace Items

variable {r r' : Items} {before : Text}

/-- The text that a reader has to have read to be where it is. -/
def soFar (r : Items) : Text :=
  (r.ended.flatMap fun u => quoted u ++ [' ']) ++
    match r.place with
    | .empty | .between => []
    | .inside => '"' :: doubled r.text
    | .closing => quoted r.text

/-- A reader holds what it has read: written again, it is the text before, and as long as nothing has been read
there is nothing. -/
structure Holds (r : Items) (before : Text) : Prop where
  collected : r.soFar = before
  fresh : r.place = .empty → r.ended = []

/-- At the start nothing has been read. -/
theorem holds_start : start.Holds [] := ⟨rfl, fun _ => rfl⟩

/-- After a character the reader is not where nothing has been read. -/
theorem place_ne_empty_of_step {c : Char} (h : r.step c = some r') : r'.place ≠ .empty := by
  obtain ⟨place, text, ended⟩ := r
  cases place <;> simp only [step] at h <;> grind

/-- A character that is read is written last. -/
theorem soFar_of_step {c : Char} (h : r.step c = some r') : r'.soFar = r.soFar ++ [c] := by
  obtain ⟨place, text, ended⟩ := r
  cases place with
  | empty | between =>
    obtain ⟨rfl, rfl⟩ : c = '"' ∧ r' = ⟨.inside, [], ended⟩ := by grind [step]
    simp [soFar, doubled]
  | inside =>
    simp only [step] at h
    split at h
    case isTrue quote =>
      cases h
      simp [soFar, quoted, quote]
    case isFalse noQuote =>
      cases h
      simp [soFar, doubled_append, doubled, noQuote]
  | closing =>
    simp only [step] at h
    split at h
    case isTrue quote =>
      -- The quote before was half of a pair, and now the pair is there.
      cases h
      simp [soFar, quoted, doubled_append, doubled, quote]
    case isFalse =>
      obtain ⟨rfl, rfl⟩ : c = ' ' ∧ r' = ⟨.between, [], ended ++ [text]⟩ := by grind
      simp [soFar]

/-- One character further, the reader still holds what it has read. -/
theorem Holds.step (hr : r.Holds before) {c : Char} (h : r.step c = some r') :
    r'.Holds (before ++ [c]) where
  collected := by rw [soFar_of_step h, hr.collected]
  fresh empty := absurd empty (place_ne_empty_of_step h)

/-- However far it gets, the reader holds what it has read. -/
theorem Holds.foldlM (hr : r.Holds before) {t : Text} (h : t.foldlM Items.step r = some r') :
    r'.Holds (before ++ t) := by
  induction t generalizing r before with
  | nil =>
    cases h
    simpa using hr
  | cons c cs ih =>
    rw [List.foldlM_cons, Option.bind_eq_bind, Option.bind_eq_some_iff] at h
    obtain ⟨next, first, rest⟩ := h
    rw [List.append_cons]
    exact ih (hr.step first) rest

/-- What a reader gives out at the end is written as what it has read. -/
theorem Holds.argumentsCell_result (hr : r.Holds before) {arguments : List Text}
    (h : r.result = some arguments) : argumentsCell arguments = before := by
  obtain ⟨place, text, ended⟩ := r
  rw [← hr.collected]
  cases place with
  | empty =>
    cases h
    simp [soFar, show ended = [] from hr.fresh rfl, argumentsCell]
  | between | inside => cases h
  | closing =>
    cases h
    exact argumentsCell_concat ended text

end Items

/-! ## Reading and writing -/

/-- A cell that is read is the one that is written for what is read. -/
theorem argumentsCell_of_readItems {cell : Text} {arguments : List Text}
    (h : readItems cell = some arguments) : argumentsCell arguments = cell := by
  obtain ⟨r, run, result⟩ := Option.bind_eq_some_iff.1 h
  exact (Items.holds_start.foldlM run).argumentsCell_result result

/-- **Reading is the inverse of writing**: a cell is read exactly as the arguments that it is written for. -/
theorem readItems_eq_some_iff {cell : Text} {arguments : List Text} :
    readItems cell = some arguments ↔ argumentsCell arguments = cell := by
  constructor
  · exact argumentsCell_of_readItems
  · rintro rfl
    exact readItems_argumentsCell arguments

/-- Different arguments have different cells. -/
theorem argumentsCell_injective : Function.Injective argumentsCell := by
  intro arguments arguments' same
  have read := readItems_argumentsCell arguments
  rw [same, readItems_argumentsCell] at read
  exact (Option.some.inj read).symm

/-- The reader accepts exactly the cells. -/
theorem isSome_readItems_iff {cell : Text} : (readItems cell).isSome ↔ IsCell cell := by
  simp only [isCell_iff, Option.isSome_iff_exists, readItems_eq_some_iff]

instance : DecidablePred IsCell := fun _ => decidable_of_iff _ isSome_readItems_iff

/-- A cell splits into items in one way only. -/
theorem intercalate_items_inj {items items' : List Text} (each : ∀ item ∈ items, IsItem item)
    (each' : ∀ item ∈ items', IsItem item)
    (same : [' '].intercalate items = [' '].intercalate items') : items = items' := by
  obtain ⟨arguments, rfl⟩ := forall_isItem_iff.1 each
  obtain ⟨arguments', rfl⟩ := forall_isItem_iff.1 each'
  rw [argumentsCell_injective same]

/-- **The cell of the arguments is unambiguous in both directions.**  The texts that are written for some
arguments are exactly those of the grammar; each of them is written for one list of arguments only and splits
into items in one way only; and the reader, going from left to right, gives back this list and refuses every
other text, so that what is read and written again is the same text.  Hence writing is a bijection between the
lists of arguments and the cells. -/
theorem argumentsCell_unambiguous :
    (∀ cell, IsCell cell ↔ ∃ arguments, argumentsCell arguments = cell) ∧
    (∀ cell, IsCell cell → ∃! arguments, argumentsCell arguments = cell) ∧
    (∀ items items' : List Text, (∀ item ∈ items, IsItem item) → (∀ item ∈ items', IsItem item) →
      [' '].intercalate items = [' '].intercalate items' → items = items') ∧
    (∀ cell arguments, readItems cell = some arguments ↔ argumentsCell arguments = cell) ∧
    (∀ cell, readItems cell = none ↔ ¬IsCell cell) ∧
    Set.BijOn argumentsCell Set.univ {cell | IsCell cell} := by
  refine ⟨fun cell => isCell_iff, ?_, fun _ _ => intercalate_items_inj, fun _ _ => readItems_eq_some_iff, ?_, ?_⟩
  · intro cell matched
    obtain ⟨arguments, rfl⟩ := isCell_iff.1 matched
    exact ⟨arguments, rfl, fun _ same => argumentsCell_injective same⟩
  · intro cell
    rw [← isSome_readItems_iff, Option.not_isSome_iff_eq_none]
  · refine ⟨?_, argumentsCell_injective.injOn, ?_⟩
    · intro arguments _
      exact isCell_iff.2 ⟨arguments, rfl⟩
    · intro cell matched
      obtain ⟨arguments, written⟩ := isCell_iff.1 matched
      exact ⟨arguments, Set.mem_univ arguments, written⟩

/-- A space between quotes is an argument, part of one, or what stands between two, as the number of quotes around it
says.  A second space and a quote too many are refused. -/
example :
    readItems "\" \"".toList = some [" ".toList] ∧
    readItems "\"\"\" \"\"\"".toList = some ["\" \"".toList] ∧
    readItems "\"\" \"\"".toList = some [[], []] ∧
    ¬IsCell "\"\"  \"\"".toList ∧ ¬IsCell "\"\"\"".toList := by
  decide

end ProgramTrace.Export.Csv
