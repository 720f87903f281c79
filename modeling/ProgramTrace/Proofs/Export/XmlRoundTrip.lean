import ProgramTrace.Proofs.Export.CsvRoundTrip

/-!
# `ProgramTrace.Proofs.Export.XmlRoundTrip` — the XML form of a session can be read back.

The reader is strict and knows nothing of sessions.  It splits a document at `<` and `>` into tags and the
gaps before them.  A gap between an opening tag and its closing tag is the text of an element, and is kept
to the last blank, its entities replaced once; every other gap has to be blank.  Tags nest, there is one
outermost element, and only the first tag can be a declaration.

Two facts make a session come back.  An escaped text holds no delimiter and is undone by replacing its
entities once (`notMem_escaped`, `unescaped_escaped`), so no text can forge markup.  And from any layout
at the start of a line, the markup of an element is read as one child more of the element around it
(`Builds`), so that the tags stay balanced for any number of arguments, and the indentation, which stands
only before tags, never comes into a text.
-/

namespace ProgramTrace.Export.Xml

/-! ## Elements -/

/-- What a document holds: elements with a text, and elements with elements. -/
inductive Element where
  | leaf (name text : Text)
  | parent (name : Text) (children : List Element)
  deriving Repr

/-- Whether a character is blank between tags. -/
def isBlank (c : Char) : Bool := c == ' ' || c == '\t' || c == '\n' || c == '\r'

/-- Whether a text can be the name of an element. -/
def isName (t : Text) : Bool := !t.isEmpty && t.all fun c => c.isAlpha || c == '_'

/-- A text in which the five entities are replaced, once.  An ampersand has to begin one of them. -/
def unescaped : Text → Option Text
  | [] => some []
  | '&' :: 'l' :: 't' :: ';' :: cs => (unescaped cs).map ('<' :: ·)
  | '&' :: 'g' :: 't' :: ';' :: cs => (unescaped cs).map ('>' :: ·)
  | '&' :: 'a' :: 'm' :: 'p' :: ';' :: cs => (unescaped cs).map ('&' :: ·)
  | '&' :: 'a' :: 'p' :: 'o' :: 's' :: ';' :: cs => (unescaped cs).map ('\'' :: ·)
  | '&' :: 'q' :: 'u' :: 'o' :: 't' :: ';' :: cs => (unescaped cs).map ('"' :: ·)
  | c :: cs => if c = '&' then none else (unescaped cs).map (c :: ·)

/-! ## Nesting -/

/-- The last tag, as far as it matters for the next. -/
inductive Last where
  | nothing
  | opening
  | other
  deriving DecidableEq, Repr

/-- An element that is open: its name, and its children so far. -/
structure Frame where
  name : Text
  children : List Element
  deriving Repr

/-- The elements that are open, the innermost first, and the outermost element once it is complete. -/
structure Nest where
  opened : List Frame
  last : Last
  outermost : Option Element
  deriving Repr

namespace Nest

/-- Nothing has been read. -/
def start : Nest := ⟨[], .nothing, none⟩

/-- An element is complete: it goes to the one around it, or is the outermost. -/
def add (n : Nest) (e : Element) : Option Nest :=
  match n.opened, n.outermost with
  | f :: fs, o => some ⟨{ f with children := f.children ++ [e] } :: fs, .other, o⟩
  | [], none => some ⟨[], .other, some e⟩
  | [], some _ => none

/-- A declaration, which can only be the first tag. -/
def declare (n : Nest) (gap body : Text) : Option Nest :=
  if n.last = .nothing ∧ gap = [] ∧ "?xml ".toList.isPrefixOf body ∧ body.getLast? = some '?' then
    some { n with last := .other }
  else none

/-- An opening tag. -/
def enter (n : Nest) (gap name : Text) : Option Nest :=
  if gap.all isBlank && isName name then
    some { n with opened := ⟨name, []⟩ :: n.opened, last := .opening }
  else none

/-- An empty tag. -/
def empty (n : Nest) (gap name : Text) : Option Nest :=
  if gap.all isBlank && isName name then n.add (.parent name []) else none

/-- A closing tag, which has to name the innermost element that is open.  Right after its opening tag, the
gap is the text of the element. -/
def leave (n : Nest) (gap name : Text) : Option Nest :=
  match n.opened with
  | [] => none
  | f :: fs =>
    if f.name ≠ name then none
    else if n.last = .opening then
      (unescaped gap).bind fun text => ({ n with opened := fs } : Nest).add (.leaf name text)
    else if gap.all isBlank then ({ n with opened := fs } : Nest).add (.parent name f.children)
    else none

/-- A tag with the gap before it. -/
def tag (n : Nest) (gap body : Text) : Option Nest :=
  match body with
  | '?' :: _ => n.declare gap body
  | '/' :: name => n.leave gap name
  | _ => if body.getLast? = some '/' then n.empty gap body.dropLast else n.enter gap body

end Nest

/-! ## Reading -/

/-- A reader of documents: the tags so far, the gap after them, and the tag it is in, if it is in one. -/
structure Reader where
  nest : Nest
  gap : Text
  body : Option Text
  deriving Repr

namespace Reader

/-- Nothing has been read. -/
def start : Reader := ⟨.start, [], none⟩

/-- One character further. -/
def step (r : Reader) (c : Char) : Option Reader :=
  match r.body with
  | none =>
    if c = '<' then some { r with body := some [] }
    else if c = '>' then none
    else some { r with gap := r.gap ++ [c] }
  | some body =>
    if c = '>' then (r.nest.tag r.gap body).map fun n => ⟨n, [], none⟩
    else if c = '<' then none
    else some { r with body := some (body ++ [c]) }

/-- The outermost element, if everything is closed and nothing follows it. -/
def result (r : Reader) : Option Element :=
  if r.nest.opened.isEmpty && r.body.isNone && r.gap.all isBlank then r.nest.outermost else none

end Reader

/-- The element that a document holds. -/
def readDocument (t : Text) : Option Element := do
  (← t.foldlM Reader.step .start).result

/-! ## Texts -/

/-- Replacing the entities once undoes the escaping. -/
theorem unescaped_escaped (t : Text) : unescaped (escaped t) = some t := by
  induction t with
  | nil => rfl
  | cons c cs ih =>
    have head : escaped (c :: cs) = entity c ++ escaped cs := List.flatMap_cons
    rw [head]
    -- An entity is replaced by its character; what it stands for is not looked at again.
    by_cases lt : c = '<'
    · simp [entity, lt, unescaped, ih]
    by_cases gt : c = '>'
    · simp [entity, gt, unescaped, ih]
    by_cases amp : c = '&'
    · simp [entity, amp, unescaped, ih]
    by_cases apos : c = '\''
    · simp [entity, apos, unescaped, ih]
    by_cases quot : c = '"'
    · simp [entity, quot, unescaped, ih]
    simp [entity, lt, gt, amp, apos, quot, unescaped, ih]

/-- Entities are replaced once, and an ampersand that begins none is refused. -/
example : unescaped "&amp;lt;".toList = some "&lt;".toList ∧ unescaped "a & b".toList = none := by
  decide

/-- The characters of the markup. -/
def marks : Text := ['<', '>', '&', '\'', '"']

/-- What stands for them. -/
def entities : List Text := marks.map entity

/-- A character of the markup stands as an entity, and every other as itself. -/
theorem entity_cases (c : Char) : c ∉ marks ∧ entity c = [c] ∨ c ∈ marks ∧ entity c ∈ entities := by
  by_cases mark : c ∈ marks
  · exact .inr ⟨mark, List.mem_map_of_mem mark⟩
  · refine .inl ⟨mark, ?_⟩
    simp only [marks, List.mem_cons, List.not_mem_nil, or_false, not_or] at mark
    obtain ⟨lt, gt, amp, apos, quot⟩ := mark
    rw [entity, if_neg lt, if_neg gt, if_neg amp, if_neg apos, if_neg quot]

/-- An escaped text holds no delimiter of a tag. -/
theorem notMem_escaped (t : Text) : '<' ∉ escaped t ∧ '>' ∉ escaped t := by
  have single : ∀ c : Char, '<' ∉ entity c ∧ '>' ∉ entity c := by
    intro c
    obtain ⟨plain, same⟩ | ⟨-, listed⟩ := entity_cases c
    · rw [same, List.mem_singleton, List.mem_singleton]
      exact ⟨fun h => plain (h ▸ by decide), fun h => plain (h ▸ by decide)⟩
    · have none : ∀ e ∈ entities, '<' ∉ e ∧ '>' ∉ e := by decide
      exact none _ listed
  constructor
  · intro h
    obtain ⟨c, -, hc⟩ := List.mem_flatMap.1 h
    exact (single c).1 hc
  · intro h
    obtain ⟨c, -, hc⟩ := List.mem_flatMap.1 h
    exact (single c).2 hc

namespace Reader

/-- Outside tags, a text without delimiters goes to the gap. -/
theorem foldlM_gap {u : Text} (hu : '<' ∉ u ∧ '>' ∉ u) (n : Nest) (gap : Text) :
    u.foldlM step ⟨n, gap, none⟩ = some ⟨n, gap ++ u, none⟩ := by
  refine foldlM_plain (fun gap => (⟨n, gap, none⟩ : Reader)) (fun c => c ≠ '<' ∧ c ≠ '>') ?_ ?_ gap
  · intro t c plain
    simp [step, plain]
  · intro c hc
    exact ⟨fun h => hu.1 (h ▸ hc), fun h => hu.2 (h ▸ hc)⟩

/-- Inside a tag, a text without delimiters goes to the tag. -/
theorem foldlM_body {u : Text} (hu : '<' ∉ u ∧ '>' ∉ u) (n : Nest) (gap body : Text) :
    u.foldlM step ⟨n, gap, some body⟩ = some ⟨n, gap, some (body ++ u)⟩ := by
  refine foldlM_plain (fun body => (⟨n, gap, some body⟩ : Reader)) (fun c => c ≠ '<' ∧ c ≠ '>') ?_ ?_ body
  · intro t c plain
    simp [step, plain]
  · intro c hc
    exact ⟨fun h => hu.1 (h ▸ hc), fun h => hu.2 (h ▸ hc)⟩

/-- A tag is taken as a whole, with the gap before it. -/
theorem foldlM_tag {u body : Text} (hu : '<' ∉ u ∧ '>' ∉ u) (hb : '<' ∉ body ∧ '>' ∉ body)
    (n : Nest) (gap rest : Text) :
    (u ++ '<' :: body ++ '>' :: rest).foldlM step ⟨n, gap, none⟩ =
      (n.tag (gap ++ u) body).bind fun n' => rest.foldlM step ⟨n', [], none⟩ := by
  rw [List.append_assoc, List.foldlM_append, foldlM_gap hu]
  simp only [List.cons_append, List.foldlM_cons, List.foldlM_append, Option.bind_eq_bind,
    Option.bind_some, step, if_true, foldlM_body hb, List.nil_append]
  cases n.tag (gap ++ u) body <;> rfl

end Reader

/-! ## Tags -/

/-- A name holds no character that has a meaning in a tag. -/
theorem notMem_of_isName {name : Text} (h : isName name) {c : Char}
    (hc : (c.isAlpha || c == '_') = false) : c ∉ name := by
  intro hm
  simp only [isName, Bool.and_eq_true, List.all_eq_true] at h
  exact absurd (h.2 c hm) (by simp [hc])

/-- A name holds no delimiter of a tag. -/
theorem notMem_delimiter_of_isName {name : Text} (h : isName name) : '<' ∉ name ∧ '>' ∉ name :=
  ⟨notMem_of_isName h (by decide), notMem_of_isName h (by decide)⟩

namespace Nest

/-- A name alone is an opening tag. -/
theorem tag_name {name : Text} (h : isName name) (n : Nest) (gap : Text) :
    n.tag gap name = n.enter gap name := by
  have question : '?' ∉ name := notMem_of_isName h (by decide)
  have slash : '/' ∉ name := notMem_of_isName h (by decide)
  unfold tag
  split
  · simp at question
  · simp at slash
  · rw [if_neg fun hl => slash (List.mem_of_getLast? hl)]

/-- A name with a slash after it is an empty tag. -/
theorem tag_name_slash {name : Text} (h : isName name) (n : Nest) (gap : Text) :
    n.tag gap (name ++ ['/']) = n.empty gap name := by
  have question : '?' ∉ name := notMem_of_isName h (by decide)
  have slash : '/' ∉ name := notMem_of_isName h (by decide)
  cases name with
  | nil => simp [isName] at h
  | cons c cs =>
    simp only [List.mem_cons, not_or] at question slash
    unfold tag
    split
    · rename_i heq
      exact absurd (List.cons.inj heq).1.symm question.1
    · rename_i heq
      exact absurd (List.cons.inj heq).1.symm slash.1
    · rw [if_pos List.getLast?_concat, List.dropLast_concat]

end Nest

/-! ## Layout -/

namespace Layout

/-- What stands before a tag is blank, and holds no delimiter. -/
theorem lead_blank (l : Layout) :
    l.lead.flatten.all isBlank = true ∧ '<' ∉ l.lead.flatten ∧ '>' ∉ l.lead.flatten := by
  unfold lead
  split
  · simp [isBlank, List.mem_replicate]
  · simp

end Layout

/-- Markup builds elements: laid out anywhere at the start of a line, it is read as these children of the
element around it, and the next line starts at the same depth. -/
def Builds (ms : List Markup) (es : List Element) : Prop :=
  ∀ (depth : Nat) (rest : List Markup) (f : Frame) (fs : List Frame) (last : Last) (o : Option Element),
    (Layout.pieces ⟨depth, true⟩ (ms ++ rest)).flatten.foldlM Reader.step
        ⟨⟨f :: fs, last, o⟩, [], none⟩ =
      (Layout.pieces ⟨depth, true⟩ rest).flatten.foldlM Reader.step
        ⟨⟨{ f with children := f.children ++ es } :: fs, .other, o⟩, [], none⟩

namespace Builds

/-- An element with a text builds itself: the text comes back as it was. -/
theorem element {name : String} (h : isName name.toList) (t : Text) :
    Builds (element name t) [.leaf name.toList t] := by
  intro depth rest f fs last o
  obtain ⟨blank, noDelimiter⟩ := Layout.lead_blank ⟨depth, true⟩
  have hname := notMem_delimiter_of_isName h
  have laid : (Layout.pieces ⟨depth, true⟩ (Xml.element name t ++ rest)).flatten =
      (Layout.lead ⟨depth, true⟩).flatten ++ '<' :: name.toList ++ '>' ::
        (escaped t ++ '<' :: ('/' :: name.toList) ++ '>' ::
          (Layout.pieces ⟨depth, true⟩ rest).flatten) := by
    simp [Xml.element, Layout.pieces, Layout.item, Layout.lead]
  rw [laid, Reader.foldlM_tag noDelimiter hname, Nest.tag_name h]
  simp only [Nest.enter, List.nil_append, blank, h, Bool.and_self, if_true, Option.bind_some]
  -- The text is the whole gap between the two tags, since no line breaks after a text.
  rw [Reader.foldlM_tag (notMem_escaped t) (by simpa using hname)]
  simp [Nest.tag, Nest.leave, unescaped_escaped, Nest.add]

/-- What is built one after the other stands one after the other. -/
theorem append {ms ms' : List Markup} {es es' : List Element} (h : Builds ms es) (h' : Builds ms' es') :
    Builds (ms ++ ms') (es ++ es') := by
  intro depth rest f fs last o
  rw [List.append_assoc, h, h']
  simp

/-- An empty tag builds an element without children. -/
theorem empty {name : Text} (h : isName name) : Builds [.empty name] [.parent name []] := by
  intro depth rest f fs last o
  obtain ⟨blank, noDelimiter⟩ := Layout.lead_blank ⟨depth, true⟩
  have hname := notMem_delimiter_of_isName h
  have laid : (Layout.pieces ⟨depth, true⟩ ([.empty name] ++ rest)).flatten =
      (Layout.lead ⟨depth, true⟩).flatten ++ '<' :: (name ++ ['/']) ++ '>' ::
        (Layout.pieces ⟨depth, true⟩ rest).flatten := by
    simp [Layout.pieces, Layout.item]
  rw [laid, Reader.foldlM_tag noDelimiter (by simpa using hname), Nest.tag_name_slash h]
  simp [Nest.empty, blank, h, Nest.add]

/-- Tags around what builds children build their parent. -/
theorem parent {name : Text} (h : isName name) {ms : List Markup} {es : List Element}
    (hms : Builds ms es) : Builds (.opening name :: ms ++ [.closing name]) [.parent name es] := by
  intro depth rest f fs last o
  obtain ⟨blank, noDelimiter⟩ := Layout.lead_blank ⟨depth, true⟩
  have hname := notMem_delimiter_of_isName h
  have laid : (Layout.pieces ⟨depth, true⟩ (.opening name :: ms ++ [.closing name] ++ rest)).flatten =
      (Layout.lead ⟨depth, true⟩).flatten ++ '<' :: name ++ '>' ::
        (Layout.pieces ⟨depth + 1, true⟩ (ms ++ .closing name :: rest)).flatten := by
    simp [Layout.pieces, Layout.item]
  have laid' : (Layout.pieces ⟨depth + 1, true⟩ (.closing name :: rest)).flatten =
      (Layout.lead ⟨depth, true⟩).flatten ++ '<' :: ('/' :: name) ++ '>' ::
        (Layout.pieces ⟨depth, true⟩ rest).flatten := by
    simp [Layout.pieces, Layout.item]
  rw [laid, Reader.foldlM_tag noDelimiter hname, Nest.tag_name h]
  simp only [Nest.enter, List.nil_append, blank, h, Bool.and_self, if_true, Option.bind_some]
  rw [hms, laid', Reader.foldlM_tag noDelimiter (by simpa using hname)]
  simp [Nest.tag, Nest.leave, blank, Nest.add]

/-- The arguments build one element each, in order. -/
theorem arguments {as : List Text} (h : as ≠ []) :
    Builds (as.flatMap (Xml.element "arg")) (as.map (.leaf "arg".toList)) := by
  induction as with
  | nil => exact absurd rfl h
  | cons a as ih =>
    have one : Builds (Xml.element "arg" a) [.leaf "arg".toList a] := element (by decide) a
    cases as with
    | nil => simpa using one
    | cons b bs => exact one.append (ih (by simp))

/-- The list of arguments builds the element that holds them, whether there are any or not. -/
theorem argumentsMarkup (as : List Text) :
    Builds (argumentsMarkup as) [.parent "args".toList (as.map (.leaf "arg".toList))] := by
  unfold Xml.argumentsMarkup
  split
  case isTrue none =>
    rw [none]
    exact empty (by decide)
  case isFalse some => exact parent (by decide) (arguments some)

end Builds

/-! ## The document -/

/-- The elements of a session, in the element around them. -/
def sessionElements (s : Session) : List Element :=
  [.leaf "program".toList s.program,
    .parent "args".toList (s.arguments.map (.leaf "arg".toList))] ++
  (s.exitStatus.map fun n => Element.leaf "exit_status".toList (toString n).toList).toList ++
  [.leaf "elapsed_ms".toList
      (toString ((s.elapsed.seconds * 1000000000 + s.elapsed.nanos) / 1000000)).toList,
    .leaf "utc_timestamp".toList s.startText]

/-- The markup of a session between its declaration and its end. -/
def sessionMarkup (s : Session) : List Markup :=
  element "program" s.program ++ argumentsMarkup s.arguments ++
    (s.statusText?.map (element "exit_status")).getD [] ++
    element "elapsed_ms" s.elapsedText ++ element "utc_timestamp" s.startText

/-- The markup of a session builds its elements. -/
theorem builds_session (s : Session) : Builds (sessionMarkup s) (sessionElements s) := by
  have program : Builds (element "program" s.program) [.leaf "program".toList s.program] :=
    .element (by decide) _
  have status : ∀ t, Builds (element "exit_status" t) [.leaf "exit_status".toList t] :=
    fun t => .element (by decide) t
  have elapsed : Builds (element "elapsed_ms" s.elapsedText) [.leaf "elapsed_ms".toList s.elapsedText] :=
    .element (by decide) _
  have started : Builds (element "utc_timestamp" s.startText)
      [.leaf "utc_timestamp".toList s.startText] := .element (by decide) _
  have front := program.append (.argumentsMarkup s.arguments)
  unfold sessionMarkup sessionElements
  rw [← Session.elapsedText_eq]
  cases h : s.exitStatus with
  | none =>
    simp only [Session.statusText?, h, Option.map_none, Option.getD_none, Option.toList_none,
      List.append_nil]
    exact (front.append elapsed).append started
  | some n =>
    simp only [Session.statusText?, h, Option.map_some, Option.getD_some, Option.toList_some,
      Decimal.toList_toString_int]
    exact ((front.append (status _)).append elapsed).append started

/-- The pieces of a session are read as its element, with everything closed. -/
theorem foldlM_pieces (s : Session) :
    (pieces s).flatten.foldlM Reader.step .start =
      some ⟨⟨[], .other, some (.parent "trace".toList [.parent "info".toList (sessionElements s)])⟩,
        [], none⟩ := by
  have nested : Builds (.opening "info".toList :: sessionMarkup s ++ [.closing "info".toList])
      [.parent "info".toList (sessionElements s)] := .parent (by decide) (builds_session s)
  have laid : (pieces s).flatten =
      [] ++ '<' :: "?xml version=\"1.0\" encoding=\"UTF-8\"?".toList ++ '>' ::
        (['\n'] ++ '<' :: "trace".toList ++ '>' ::
          (Layout.pieces ⟨1, true⟩ (.opening "info".toList :: sessionMarkup s ++
            [.closing "info".toList] ++ [.closing "trace".toList])).flatten) := by
    simp [pieces, markup, sessionMarkup, Layout.pieces, Layout.item, Layout.lead, Layout.start]
  have last : (Layout.pieces ⟨1, true⟩ [.closing "trace".toList]).flatten =
      ['\n'] ++ '<' :: "/trace".toList ++ '>' :: [] := by decide
  have declared : Nest.start.tag ([] ++ []) "?xml version=\"1.0\" encoding=\"UTF-8\"?".toList =
      some ⟨[], .other, none⟩ := rfl
  have entered : Nest.tag ⟨[], .other, none⟩ ([] ++ ['\n']) "trace".toList =
      some ⟨[⟨"trace".toList, []⟩], .opening, none⟩ := rfl
  -- Declaration, outermost tag, everything inside it, and the last tag.
  rw [laid, Reader.start, Reader.foldlM_tag (by decide) (by decide), declared, Option.bind_some,
    Reader.foldlM_tag (by decide) (by decide), entered, Option.bind_some, nested, last,
    Reader.foldlM_tag (by decide) (by decide)]
  rfl

/-- **The XML form of a session can be read back**, and no text in it can forge markup.  What is written is
one element in another, and in that the program, the arguments (as many, in their order, each as it was),
the status if there is one, the whole milliseconds and the start. -/
theorem readDocument_document (s : Session) :
    emit none s .xml = .ok (Text.toUtf8 (document s)) ∧
    readDocument (document s) =
      some (.parent "trace".toList [.parent "info".toList (sessionElements s)]) := by
  refine ⟨emit_eq_render (by simp) s .xml, ?_⟩
  rw [document, readDocument, List.foldlM_append, foldlM_pieces]
  rfl

end ProgramTrace.Export.Xml
