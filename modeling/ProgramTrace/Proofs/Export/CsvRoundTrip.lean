import ProgramTrace.Proofs.Decimal
import ProgramTrace.Proofs.Export.Sink

/-!
# `ProgramTrace.Proofs.Export.CsvRoundTrip` — the CSV form of a session can be read back.

Two readers, each a machine over single characters that knows nothing of sessions.  `readRecords` reads
records: fields between commas, a field bare or in quotes, each record ended by a line feed.  `readItems`
reads the cell of the arguments: items in quotes with one space between two of them.  Both are strict: a
quote in a bare field, a quote that is not doubled, a carriage return outside quotes or a record without
its line feed is refused.

A quote inside an argument is doubled twice, once for its item and once for its field, and each layer is
undone by its own reader.  What carries both is the same fact: between quotes, a doubled text is read as
the text (`foldlM_doubled`), whatever it holds.
-/

namespace ProgramTrace.Export

/-! ## Machines that collect a text

Most of what a reader does is to collect a text while it stands in one place.  These two facts do not depend on the
reader.
-/

section Collecting

variable {σ : Type} {step : σ → Char → Option σ}

/-- Where every character of a kind is collected, a text of this kind is collected. -/
theorem foldlM_plain (place : Text → σ) (plain : Char → Prop)
    (collect : ∀ t c, plain c → step (place t) c = some (place (t ++ [c]))) {u : Text}
    (hu : ∀ c ∈ u, plain c) (t : Text) : u.foldlM step (place t) = some (place (t ++ u)) := by
  induction u generalizing t with
  | nil => simp
  | cons c cs ih =>
    rw [List.foldlM_cons, collect t c (hu c (by simp))]
    show cs.foldlM step (place (t ++ [c])) = _
    rw [ih (fun d hd => hu d (List.mem_cons_of_mem c hd)), List.append_assoc, List.singleton_append]

/-- Where a quote is collected if another follows it, a doubled text is collected as the text. -/
theorem foldlM_doubled (place closing : Text → σ)
    (collect : ∀ t c, c ≠ '"' → step (place t) c = some (place (t ++ [c])))
    (quote : ∀ t, step (place t) '"' = some (closing t))
    (again : ∀ t, step (closing t) '"' = some (place (t ++ ['"']))) (u t : Text) :
    (Csv.doubled u).foldlM step (place t) = some (place (t ++ u)) := by
  induction u generalizing t with
  | nil => simp [Csv.doubled]
  | cons c cs ih =>
    rw [Csv.doubled]
    split
    case isTrue same =>
      subst same
      simp only [List.foldlM_cons, quote, again, Option.bind_eq_bind, Option.bind_some, ih,
        List.append_assoc, List.singleton_append]
    case isFalse other =>
      simp only [List.foldlM_cons, collect t c other, Option.bind_eq_bind, Option.bind_some, ih,
        List.append_assoc, List.singleton_append]

end Collecting

namespace Csv

/-! ## A reader of records -/

/-- Where a reader of records stands. -/
inductive Place where
  /-- A field can begin. -/
  | before
  /-- In a field without quotes. -/
  | bare
  /-- Between the quotes of a field. -/
  | inside
  /-- After a quote that ends a field, or is the first of two. -/
  | closing
  deriving DecidableEq, Repr

/-- A reader of records: where it stands, the field and the record so far, and the records before. -/
structure Records where
  place : Place
  text : Text
  fields : List Text
  ended : List (List Text)
  deriving DecidableEq, Repr

namespace Records

/-- Nothing has been read. -/
def start : Records := ⟨.before, [], [], []⟩

/-- A field ends: at a comma the record goes on, at a line feed it ends too. -/
def delimit (r : Records) (c : Char) : Option Records :=
  if c = ',' then some ⟨.before, [], r.fields ++ [r.text], r.ended⟩
  else if c = '\n' then some ⟨.before, [], [], r.ended ++ [r.fields ++ [r.text]]⟩
  else none

/-- A character outside quotes. -/
def outside (r : Records) (c : Char) : Option Records :=
  if isSpecial c then r.delimit c else some { r with place := .bare, text := r.text ++ [c] }

/-- One character further. -/
def step (r : Records) (c : Char) : Option Records :=
  match r.place with
  | .before => if c = '"' then some { r with place := .inside } else r.outside c
  | .bare => r.outside c
  | .inside =>
    if c = '"' then some { r with place := .closing } else some { r with text := r.text ++ [c] }
  | .closing =>
    if c = '"' then some { r with place := .inside, text := r.text ++ ['"'] } else r.delimit c

/-- The records that have been read, if the last one is ended. -/
def result (r : Records) : Option (List (List Text)) :=
  if r.place = .before ∧ r.fields = [] then some r.ended else none

end Records

/-- The records of a text. -/
def readRecords (t : Text) : Option (List (List Text)) := do
  (← t.foldlM Records.step .start).result

namespace Records

variable (fields : List Text) (ended : List (List Text))

/-- A text without special characters is read as it is. -/
theorem foldlM_bare {t : Text} (ht : t.any isSpecial = false) (text : Text) :
    t.foldlM step ⟨.bare, text, fields, ended⟩ = some ⟨.bare, text ++ t, fields, ended⟩ := by
  refine foldlM_plain (fun text => (⟨.bare, text, fields, ended⟩ : Records)) (isSpecial · = false) ?_ ?_ text
  · intro t c plain
    simp [step, outside, plain]
  · simpa using ht

/-- Between quotes, a doubled text is read as the text. -/
theorem foldlM_inside (t text : Text) :
    (doubled t).foldlM step ⟨.inside, text, fields, ended⟩ =
      some ⟨.inside, text ++ t, fields, ended⟩ := by
  refine foldlM_doubled (fun text => (⟨.inside, text, fields, ended⟩ : Records))
    (fun text => ⟨.closing, text, fields, ended⟩) ?_ ?_ ?_ t text
  · intro t c other
    simp [step, other]
  · intro t
    rfl
  · intro t
    rfl

/-- **A field is read as its text** when the delimiter after it is reached. -/
theorem foldlM_field {d : Char} (hd : d = ',' ∨ d = '\n') (t : Text) :
    (field t ++ [d]).foldlM step ⟨.before, [], fields, ended⟩ =
      delimit ⟨.before, t, fields, ended⟩ d := by
  have special : isSpecial d = true := by rcases hd with rfl | rfl <;> decide
  have noQuote : d ≠ '"' := by rcases hd with rfl | rfl <;> decide
  unfold field
  split
  case isTrue =>
    simp only [quoted, List.cons_append, List.append_assoc, List.nil_append, List.foldlM_cons,
      List.foldlM_append, List.foldlM_nil, foldlM_inside, step, if_true, if_neg noQuote, Option.bind_eq_bind,
      Option.bind_some, Option.bind_fun_some, Option.pure_def]
    rfl
  case isFalse bare =>
    -- The first character decides that the field has no quotes; without one, the delimiter does.
    cases t with
    | nil =>
      simp only [List.nil_append, List.foldlM_cons, List.foldlM_nil, step, outside, special, if_true,
        if_neg noQuote, Option.bind_eq_bind, Option.bind_fun_some, Option.pure_def]
    | cons c cs =>
      simp only [List.any_cons, Bool.or_eq_true, not_or, Bool.not_eq_true] at bare
      have first : c ≠ '"' := by
        rintro rfl
        exact absurd bare.1 (by decide)
      simp only [List.cons_append, List.foldlM_cons, List.foldlM_append, List.foldlM_nil, step, outside,
        bare.1, special, foldlM_bare _ _ bare.2, if_true, if_false, if_neg first, Bool.false_eq_true,
        Option.bind_eq_bind, Option.bind_some, Option.bind_fun_some, Option.pure_def]
      rfl

/-- **A record is read as its fields** when its line feed is reached. -/
theorem foldlM_record {fs : List Text} (hfs : fs ≠ []) :
    (record fs ++ ['\n']).foldlM step ⟨.before, [], fields, ended⟩ =
      some ⟨.before, [], [], ended ++ [fields ++ fs]⟩ := by
  induction fs generalizing fields with
  | nil => exact absurd rfl hfs
  | cons f rest ih =>
    cases rest with
    | nil =>
      have single : record [f] = field f := by simp [record]
      rw [single]
      exact foldlM_field fields ended (.inr rfl) f
    | cons g gs =>
      have comma : record (f :: g :: gs) = field f ++ [','] ++ record (g :: gs) := by
        simp [record, List.intercalate_cons_cons]
      rw [comma, List.append_assoc, List.foldlM_append, foldlM_field _ _ (.inl rfl)]
      simpa [delimit] using ih (fields ++ [f]) (by simp)

end Records

/-- Records, each ended by a line feed, are read back. -/
theorem readRecords_flatMap {rs : List (List Text)} (h : ∀ r ∈ rs, r ≠ []) :
    readRecords (rs.flatMap fun r => record r ++ ['\n']) = some rs := by
  -- The records before are carried along.
  have run : ∀ ended, (rs.flatMap fun r => record r ++ ['\n']).foldlM Records.step
      ⟨.before, [], [], ended⟩ = some ⟨.before, [], [], ended ++ rs⟩ := by
    induction rs with
    | nil => simp
    | cons r rs ih =>
      intro ended
      rw [List.flatMap_cons, List.foldlM_append, Records.foldlM_record _ _ (h r (by simp))]
      simpa using ih (fun r' hr' => h r' (by simp [hr'])) (ended ++ [r])
  simp [readRecords, Records.start, run, Records.result]

/-- A quote in a field that does not start with one is refused, and so is a record without its end. -/
example : readRecords "a\"b\n".toList = none ∧ readRecords "a,b".toList = none := by decide

/-! ## A reader of cells -/

/-- Where a reader of a cell stands. -/
inductive CellPlace where
  /-- Nothing has been read. -/
  | empty
  /-- After a space: an item has to begin. -/
  | between
  /-- Between the quotes of an item. -/
  | inside
  /-- After a quote that ends an item, or is the first of two. -/
  | closing
  deriving DecidableEq, Repr

/-- A reader of a cell: where it stands, the item so far, and the items before. -/
structure Items where
  place : CellPlace
  text : Text
  ended : List Text
  deriving DecidableEq, Repr

namespace Items

/-- Nothing has been read. -/
def start : Items := ⟨.empty, [], []⟩

/-- One character further. -/
def step (r : Items) (c : Char) : Option Items :=
  match r.place with
  | .empty | .between => if c = '"' then some ⟨.inside, [], r.ended⟩ else none
  | .inside =>
    if c = '"' then some { r with place := .closing } else some { r with text := r.text ++ [c] }
  | .closing =>
    if c = '"' then some { r with place := .inside, text := r.text ++ ['"'] }
    else if c = ' ' then some ⟨.between, [], r.ended ++ [r.text]⟩
    else none

/-- The items that have been read, if the last one is ended. -/
def result (r : Items) : Option (List Text) :=
  match r.place with
  | .empty => some []
  | .closing => some (r.ended ++ [r.text])
  | _ => none

end Items

/-- The items of a cell. -/
def readItems (cell : Text) : Option (List Text) := do
  (← cell.foldlM Items.step .start).result

namespace Items

variable (ended : List Text)

/-- Between quotes, a doubled text is read as the text. -/
theorem foldlM_inside (t text : Text) :
    (doubled t).foldlM step ⟨.inside, text, ended⟩ = some ⟨.inside, text ++ t, ended⟩ := by
  refine foldlM_doubled (fun text => (⟨.inside, text, ended⟩ : Items))
    (fun text => ⟨.closing, text, ended⟩) ?_ ?_ ?_ t text
  · intro t c other
    simp [step, other]
  · intro t
    rfl
  · intro t
    rfl

/-- An item is read as its text, wherever one can begin. -/
theorem foldlM_quoted {p : CellPlace} (hp : p = .empty ∨ p = .between) (t : Text) :
    (quoted t).foldlM step ⟨p, [], ended⟩ = some ⟨.closing, t, ended⟩ := by
  rcases hp with rfl | rfl <;> simp [quoted, step, foldlM_inside]

/-- Items with a space before each are read one after the other. -/
theorem foldlM_flatMap (ts : List Text) (t : Text) :
    ∃ r, (ts.flatMap fun u => ' ' :: quoted u).foldlM step ⟨.closing, t, ended⟩ = some r ∧
      r.place = .closing ∧ r.ended ++ [r.text] = ended ++ t :: ts := by
  induction ts generalizing ended t with
  | nil => exact ⟨⟨.closing, t, ended⟩, rfl, rfl, rfl⟩
  | cons u us ih =>
    obtain ⟨r, hr, place, items⟩ := ih (ended ++ [t]) u
    refine ⟨r, ?_, place, by simpa using items⟩
    rw [List.flatMap_cons, List.foldlM_append, List.foldlM_cons]
    simpa [step, foldlM_quoted _ (.inr rfl)] using hr

end Items

/-- A cell that is not empty is an item, and a space before each item more. -/
theorem argumentsCell_cons (t : Text) (ts : List Text) :
    argumentsCell (t :: ts) = quoted t ++ ts.flatMap fun u => ' ' :: quoted u := by
  induction ts generalizing t with
  | nil => simp [argumentsCell]
  | cons u us ih =>
    have space : argumentsCell (t :: u :: us) = quoted t ++ ' ' :: argumentsCell (u :: us) := by
      simp [argumentsCell]
    rw [space, ih, List.flatMap_cons, List.cons_append]

/-- **The arguments are read back from their cell**, whatever they hold: none, empty ones, and ones that
look like several. -/
theorem readItems_argumentsCell (arguments : List Text) :
    readItems (argumentsCell arguments) = some arguments := by
  cases arguments with
  | nil => rfl
  | cons t ts =>
    obtain ⟨r, hr, place, items⟩ := Items.foldlM_flatMap [] ts t
    rw [argumentsCell_cons, readItems, List.foldlM_append, Items.start,
      Items.foldlM_quoted _ (.inl rfl)]
    simp only [Option.bind_eq_bind, Option.bind_some, hr, Items.result, place, items, List.nil_append]

/-! ## The document -/

/-- The CSV form of a session is two records, each ended by a line feed. -/
theorem document_eq_flatMap (s : Session) :
    document s = [header, cells s].flatMap fun r => record r ++ ['\n'] := by
  simp [document, pieces]

/-- **The CSV form of a session loses nothing.**  What is written is two records of five fields each, the names of
the columns and the session; the fields of the session are its program, a cell from which its arguments are read back,
its status (empty exactly if there is none), its whole milliseconds and its start, and nothing is left over. -/
theorem readRecords_document (s : Session) :
    emit none s .csv = .ok (Text.toUtf8 (document s)) ∧
    ∃ arguments status,
      readRecords (document s) = some [
        ["program".toList, "arguments".toList, "exit_status".toList, "elapsed_ms".toList, "utc_timestamp".toList],
        [s.program, arguments, status,
          (toString ((s.elapsed.seconds * 1000000000 + s.elapsed.nanos) / 1000000)).toList, s.startText]] ∧
      readItems arguments = some s.arguments ∧
      (status = [] ↔ s.exitStatus = none) ∧
      ∀ n, s.exitStatus = some n → status = (toString n).toList := by
  refine ⟨emit_eq_render (by simp) s .csv, argumentsCell s.arguments, s.statusText?.getD [], ?_,
    readItems_argumentsCell s.arguments, ?_, fun n hn => ?_⟩
  · rw [document_eq_flatMap, readRecords_flatMap (by simp [header, cells]), ← Session.elapsedText_eq]
    rfl
  · cases h : s.exitStatus with
    | none => simp [Session.statusText?, h]
    | some n => simp [Session.statusText?, h, Decimal.ofInt_ne_nil]
  · rw [Session.statusText?, hn, Decimal.toList_toString_int]
    rfl

end Csv

end ProgramTrace.Export
