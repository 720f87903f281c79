import ProgramTrace.Proofs.Export.XmlRoundTrip
import ProgramTrace.Proofs.Time.Stamp
import ProgramTrace.Proofs.Utf8
import ProgramTrace.Text.Classes

/-!
# `ProgramTrace.Proofs.Export.XmlConformance` — what an XML processor makes of the XML form of a session.

XML 1.0, which every document declares, asks for more than tags that nest.  A document can hold only the characters
of its production `Char` (`isChar`), and a processor turns CR LF and a CR alone into LF before it looks at the
markup (`normalised`).  The writer replaces the five characters of the markup and leaves every other character as it
is, so that neither is seen to:

* `process_document`: a processor reads the session with its line ends turned, if program and arguments hold `Char`s
  alone, and refuses the document otherwise.
* **`process_document_iff`**: so a session comes back as it was exactly if no CR is in it either.
* **`not_all_process_document`**: not every session does, although a program can be launched with any character
  but NUL.
-/

namespace ProgramTrace

namespace Export.Xml

/-! ## Processors -/

/-- The characters that a document can hold: the production `Char`. -/
def chars : Ranges := [(0x9, 0xA), (0xD, 0xD), (0x20, 0xD7FF), (0xE000, 0xFFFD), (0x10000, 0x10FFFF)]

/-- Whether a document can hold a character. -/
def isChar (c : Char) : Bool := chars.mem c

/-- Whether a processor keeps a character as it is. -/
def isLasting (c : Char) : Bool := isChar c && c != '\r'

/-- A text with its line ends turned: CR LF and CR alone become LF. -/
def normalised : Text → Text
  | [] => []
  | '\r' :: '\n' :: cs => '\n' :: normalised cs
  | '\r' :: cs => '\n' :: normalised cs
  | c :: cs => c :: normalised cs

/-- What a processor makes of bytes that are declared to be UTF-8.  It replaces the five entities; references to
characters by their number, which the writer does not make, are left out. -/
def process (b : Bytes) : Option Element := do
  let t ← b.toText?
  if t.all isChar then readDocument (normalised t) else none

/-! ## Line ends -/

theorem normalised_cons {c : Char} (h : c ≠ '\r') (cs : Text) : normalised (c :: cs) = c :: normalised cs := by
  rw [normalised]
  · intro _ same _
    exact h same
  · exact h

/-- Where there is no CR, nothing is turned. -/
theorem normalised_append {u : Text} (h : '\r' ∉ u) (v : Text) : normalised (u ++ v) = u ++ normalised v := by
  induction u with
  | nil => rfl
  | cons c cs ih =>
    rw [List.mem_cons, not_or] at h
    rw [List.cons_append, normalised_cons (Ne.symm h.1), ih h.2, List.cons_append]

theorem normalised_eq_self {u : Text} (h : '\r' ∉ u) : normalised u = u := by
  have all := normalised_append h []
  simpa [normalised] using all

/-- No CR is left. -/
theorem notMem_normalised (t : Text) : '\r' ∉ normalised t := by
  induction t using normalised.induct with
  | case1 => simp [normalised]
  | case2 cs ih => simpa [normalised] using ih
  | case3 cs _ ih => simpa [normalised] using ih
  | case4 c cs _ other ih =>
    have ne : c ≠ '\r' := other
    rw [normalised_cons ne, List.mem_cons, not_or]
    exact ⟨Ne.symm ne, ih⟩

/-- A text is as it was after its line ends are turned exactly if it has no CR. -/
theorem normalised_eq_self_iff {t : Text} : normalised t = t ↔ '\r' ∉ t := by
  constructor
  · intro same
    rw [← same]
    exact notMem_normalised t
  · exact normalised_eq_self

/-- What a line end turns into does not depend on a tag that follows. -/
theorem normalised_append_tag (u v : Text) :
    normalised (u ++ '<' :: v) = normalised u ++ normalised ('<' :: v) := by
  induction u using normalised.induct with
  | case1 => rfl
  | case2 cs ih => simp only [List.cons_append, normalised, ih]
  | case3 cs alone ih =>
    have alone' : ∀ ds, cs ++ '<' :: v ≠ '\n' :: ds := by
      intro ds same
      cases cs with
      | nil => simp at same
      | cons c cs => exact alone cs (by rw [(List.cons.inj same).1])
    rw [List.cons_append, normalised, ih, normalised, List.cons_append]
    · exact alone
    · exact alone'
  | case4 c cs _ other ih =>
    have ne : c ≠ '\r' := other
    rw [List.cons_append, normalised_cons ne, normalised_cons ne, ih, List.cons_append]

/-! ## Escaped texts -/

/-- What stands for a character other than CR holds no CR. -/
theorem return_notMem_entity {c : Char} (h : c ≠ '\r') : '\r' ∉ entity c := by
  obtain ⟨-, same⟩ | ⟨-, listed⟩ := entity_cases c
  · rw [same, List.mem_singleton]
    exact Ne.symm h
  · have none : ∀ e ∈ entities, '\r' ∉ e := by decide
    exact none _ listed

/-- What stands for a character other than LF begins with another character. -/
theorem exists_entity_eq_cons {c : Char} (h : c ≠ '\n') : ∃ d ds, entity c = d :: ds ∧ d ≠ '\n' := by
  obtain ⟨-, same⟩ | ⟨-, listed⟩ := entity_cases c
  · exact ⟨c, [], same, h⟩
  · have begun : ∀ e ∈ entities, e = '&' :: e.tail := by decide
    exact ⟨'&', _, begun _ listed, by decide⟩

/-- Escaping does not touch line ends. -/
theorem normalised_escaped (t : Text) : normalised (escaped t) = escaped (normalised t) := by
  induction t using normalised.induct with
  | case1 => rfl
  | case2 cs ih =>
    have lf : escaped ('\r' :: '\n' :: cs) = '\r' :: '\n' :: escaped cs := rfl
    rw [lf, normalised, normalised, ih]
    rfl
  | case3 cs alone ih =>
    have cr : escaped ('\r' :: cs) = '\r' :: escaped cs := rfl
    have alone' : ∀ ds, escaped cs ≠ '\n' :: ds := by
      intro ds same
      cases cs with
      | nil => cases same
      | cons c cs =>
        have ne : c ≠ '\n' := fun e => alone cs (by rw [e])
        obtain ⟨d, rest, eq, head⟩ := exists_entity_eq_cons ne
        have begun : escaped (c :: cs) = d :: (rest ++ escaped cs) := by
          show entity c ++ escaped cs = _
          rw [eq, List.cons_append]
        rw [begun] at same
        exact head (List.cons.inj same).1
    rw [cr, normalised, normalised, ih]
    · rfl
    · exact alone
    · exact alone'
  | case4 c cs _ other ih =>
    have ne : c ≠ '\r' := other
    have head : escaped (c :: cs) = entity c ++ escaped cs := rfl
    rw [head, normalised_append (return_notMem_entity ne), normalised_cons ne, ih]
    rfl

/-- An escaped text holds `Char`s alone exactly if the text does. -/
theorem all_isChar_escaped (t : Text) : (escaped t).all isChar = t.all isChar := by
  have single : ∀ c, (entity c).all isChar = isChar c := by
    intro c
    obtain ⟨-, same⟩ | ⟨mark, listed⟩ := entity_cases c
    · rw [same, List.all_cons, List.all_nil, Bool.and_true]
    · have entities : ∀ e ∈ entities, e.all isChar = true := by decide
      have marks : marks.all isChar = true := by decide
      rw [entities _ listed, List.all_eq_true.mp marks c mark]
  rw [escaped, List.all_flatMap]
  exact congrArg t.all (funext single)

/-- What lasts holds `Char`s alone. -/
theorem all_isChar_of_isLasting {t : Text} (h : t.all isLasting) : t.all isChar := by
  rw [List.all_eq_true] at h ⊢
  exact fun c hc => (Bool.and_eq_true_iff.mp (h c hc)).1

/-- What lasts holds no CR. -/
theorem return_notMem_of_isLasting {t : Text} (h : t.all isLasting) : '\r' ∉ t := by
  intro hc
  have lasts := List.all_eq_true.mp h _ hc
  exact absurd lasts (by decide)

/-! ## Markup -/

namespace Markup

/-- The name in a tag. -/
def name : Markup → Text
  | .opening n | .closing n | .empty n => n
  | _ => []

/-- The text between tags. -/
def content : Markup → Text
  | .text t => t
  | _ => []

/-- Markup with its line ends turned. -/
def normalised : Markup → Markup
  | .text t => .text (Xml.normalised t)
  | m => m

/-- Whether every text has a tag after it. -/
def areApart : List Markup → Bool
  | [] => true
  | [.text _] => false
  | .text _ :: .text _ :: _ => false
  | _ :: ms => areApart ms

theorem areApart_tail {m : Markup} {ms : List Markup} (h : areApart (m :: ms)) : areApart ms := by
  cases m with
  | text t =>
    cases ms with
    | nil => cases h
    | cons m' ms =>
      cases m' with
      | text t' => cases h
      | _ => exact h
  | _ => exact h

end Markup

namespace Layout

/-- A tag lasts if its name does. -/
theorem all_item (l : Layout) {m : Markup} (tag : ∀ t, m ≠ .text t) (name : m.name.all isLasting) :
    (l.item m).1.flatten.all isLasting := by
  have lead : ∀ l : Layout, l.lead.flatten.all isLasting := by
    intro l
    unfold Layout.lead
    split
    · have blank : isLasting ' ' = true := by decide
      rw [List.flatten_cons, List.flatten_singleton, List.all_append, List.all_replicate, blank, ite_self]
      decide
    · rfl
  have around : ∀ (l : Layout) (u n v : Text), u.all isLasting → n.all isLasting → v.all isLasting →
      (l.lead ++ [u, n, v]).flatten.all isLasting := by
    intro l u n v hu hn hv
    rw [List.flatten_append, List.all_append, lead, List.flatten_cons, List.all_append, hu, List.flatten_cons,
      List.all_append, hn, List.flatten_singleton, hv]
    rfl
  cases m with
  | declaration => exact around l _ _ _ (by decide) (by decide) (by decide)
  | opening n => exact around l _ n _ (by decide) name (by decide)
  | closing n => exact around _ _ n _ (by decide) name (by decide)
  | empty n => exact around l _ n _ (by decide) name (by decide)
  | text t => exact absurd rfl (tag t)

/-- Right after a text stands the `<` of a tag. -/
theorem pieces_after_text {ms : List Markup} {t : Text} (apart : Markup.areApart (.text t :: ms)) (depth : Nat) :
    ∃ v, (pieces ⟨depth, false⟩ ms).flatten = '<' :: v := by
  cases ms with
  | nil => cases apart
  | cons m ms =>
    cases m with
    | text t => cases apart
    | _ => exact ⟨_, rfl⟩

/-- **Turning the line ends of what is laid out turns those of the texts, and no other.** -/
theorem normalised_pieces {ms : List Markup} (names : ∀ m ∈ ms, m.name.all isLasting)
    (apart : Markup.areApart ms) (l : Layout) (v : Text) : normalised ((l.pieces ms).flatten ++ v) =
      (l.pieces (ms.map Markup.normalised)).flatten ++ normalised v := by
  induction ms generalizing l with
  | nil => rfl
  | cons m ms ih =>
    have rest := ih (fun m' h => names m' (List.mem_cons_of_mem m h)) (Markup.areApart_tail apart)
    have tagged : (∀ t, m ≠ .text t) → m.normalised = m →
        normalised ((l.pieces (m :: ms)).flatten ++ v) =
          (l.pieces ((m :: ms).map Markup.normalised)).flatten ++ normalised v := by
      intro tag same
      have plain := return_notMem_of_isLasting (all_item l tag (names m (List.mem_cons_self ..)))
      rw [List.map_cons, same, pieces, pieces, List.flatten_append, List.flatten_append, List.append_assoc,
        normalised_append plain, rest, List.append_assoc]
    cases m with
    | text t =>
      have left : (l.pieces (.text t :: ms)).flatten = escaped t ++ (pieces ⟨l.depth, false⟩ ms).flatten := rfl
      have right : (l.pieces ((.text t :: ms).map Markup.normalised)).flatten =
          escaped (Xml.normalised t) ++ (pieces ⟨l.depth, false⟩ (ms.map Markup.normalised)).flatten := rfl
      obtain ⟨w, tag⟩ := pieces_after_text apart l.depth
      rw [left, right, List.append_assoc, List.append_assoc, ← rest, ← normalised_escaped, tag, List.cons_append,
        normalised_append_tag]
    | _ => exact tagged (by simp) rfl

/-- **What is laid out holds `Char`s alone exactly if its texts do.** -/
theorem all_isChar_pieces {ms : List Markup} (names : ∀ m ∈ ms, m.name.all isLasting) (l : Layout) :
    (l.pieces ms).flatten.all isChar = (ms.flatMap Markup.content).all isChar := by
  induction ms generalizing l with
  | nil => rfl
  | cons m ms ih =>
    have tagged : (∀ t, m ≠ .text t) → (l.item m).1.flatten.all isChar := fun tag =>
      all_isChar_of_isLasting (all_item l tag (names m (List.mem_cons_self ..)))
    have here : (l.item m).1.flatten.all isChar = m.content.all isChar := by
      cases m with
      | text t =>
        have item : (l.item (.text t)).1.flatten = escaped t := List.append_nil _
        rw [item]
        exact all_isChar_escaped t
      | _ => exact tagged (by simp)
    rw [pieces, List.flatten_append, List.flatMap_cons, List.all_append, List.all_append, here,
      ih (fun m' h => names m' (List.mem_cons_of_mem m h))]

end Layout

/-! ## Sessions -/

/-- A session with the line ends of its texts turned. -/
def turned (s : Session) : Session :=
  { s with program := normalised s.program, arguments := s.arguments.map normalised }

/-- The one element of a session's document. -/
def sessionElement (s : Session) : Element := .parent "trace".toList [.parent "info".toList (sessionElements s)]

theorem isLasting_of_isDigit {c : Char} (digit : c.isDigit) : isLasting c := by
  have range := Char.isDigit_iff_toNat.mp digit
  have low : 0x20 ≤ c.toNat := Nat.le_trans (by decide) range.1
  have high : c.toNat ≤ 0xD7FF := Nat.le_trans range.2 (by decide)
  have other : c ≠ '\r' := by
    rintro rfl
    cases digit
  simp [isLasting, isChar, chars, Ranges.mem, low, high, other]

/-- The texts of a session that do not come from its command line. -/
def ownTexts (s : Session) : List Text := s.statusText?.toList ++ [s.elapsedText, s.startText]

/-- They are made of digits and the signs of numbers, and last. -/
theorem isLasting_ownTexts {s : Session} {t : Text} (h : t ∈ ownTexts s) : t.all isLasting := by
  have signs : ['+', '-', ':', 'T', 'Z'].all isLasting = true := by decide
  rw [List.all_eq_true] at signs ⊢
  intro c hc
  simp only [ownTexts, Session.statusText?, List.mem_append, Option.mem_toList, Option.map_eq_some_iff,
    List.mem_cons, List.not_mem_nil, or_false] at h
  obtain ⟨n, -, rfl⟩ | rfl | rfl := h
  · obtain digit | rfl := Decimal.isDigit_or_of_mem_ofInt hc
    · exact isLasting_of_isDigit digit
    · exact signs '-' (by decide)
  · exact isLasting_of_isDigit (Decimal.isDigit_of_mem_ofNat hc)
  · obtain digit | sign := Instant.isDigit_or_of_mem_stamp hc
    · exact isLasting_of_isDigit digit
    · exact signs c sign

theorem content_element (name : String) (t : Text) : (element name t).flatMap Markup.content = t := by
  show [] ++ (t ++ ([] ++ [])) = t
  rw [List.nil_append, List.append_nil, List.append_nil]

theorem content_argumentsMarkup (as : List Text) :
    (argumentsMarkup as).flatMap Markup.content = as.flatten := by
  unfold argumentsMarkup
  split
  case isTrue none =>
    rw [none]
    rfl
  case isFalse =>
    have each : (as.flatMap (element "arg")).flatMap Markup.content = as.flatten := by
      rw [List.flatMap_assoc]
      simp only [content_element, List.flatMap_id']
    rw [List.flatMap_append, List.flatMap_cons, each]
    exact List.append_nil _

/-- The texts of a session's markup, one after the other. -/
theorem content_markup (s : Session) :
    (markup s).flatMap Markup.content = (s.program :: s.arguments).flatten ++ (ownTexts s).flatten := by
  have status : ((s.statusText?.map (element "exit_status")).getD []).flatMap Markup.content =
      s.statusText?.toList.flatten := by
    cases s.statusText? with
    | none => rfl
    | some t =>
      show (element "exit_status" t).flatMap Markup.content = [t].flatten
      rw [content_element, List.flatten_singleton]
  have front : ∀ a b : Text, [Markup.declaration, .opening a, .opening b].flatMap Markup.content = [] :=
    fun _ _ => rfl
  have back : ∀ a b : Text, [Markup.closing a, .closing b].flatMap Markup.content = [] := fun _ _ => rfl
  unfold markup
  rw [List.flatMap_append, List.flatMap_append, List.flatMap_append, List.flatMap_append, List.flatMap_append,
    List.flatMap_append, content_element, content_element, content_element, content_argumentsMarkup, status,
    front, back, List.nil_append, List.append_nil]
  rw [ownTexts, List.flatten_append, List.flatten_cons, List.flatten_cons, List.flatten_cons, List.flatten_nil,
    List.append_nil]
  simp only [List.append_assoc]

/-- The names in a session's tags last. -/
theorem isLasting_names (s : Session) : ∀ m ∈ markup s, m.name.all isLasting := by
  have single : ∀ {name : String} (t : Text), name.toList.all isLasting →
      ∀ m ∈ element name t, m.name.all isLasting := by
    intro name t h m mem
    simp only [element, List.mem_cons, List.not_mem_nil, or_false] at mem
    obtain rfl | rfl | rfl := mem
    · exact h
    · rfl
    · exact h
  have arguments : ∀ m ∈ argumentsMarkup s.arguments, m.name.all isLasting := by
    intro m mem
    unfold argumentsMarkup at mem
    split at mem
    · obtain rfl := List.mem_singleton.mp mem
      decide
    · simp only [List.cons_append, List.mem_cons, List.mem_append, List.mem_flatMap, List.not_mem_nil,
        or_false] at mem
      obtain rfl | ⟨a, -, mem⟩ | rfl := mem
      · decide
      · exact single a (by decide) m mem
      · decide
  have status : ∀ m ∈ (s.statusText?.map (element "exit_status")).getD [], m.name.all isLasting := by
    cases s.statusText? with
    | none => simp
    | some t => exact single t (by decide)
  have front : ∀ m ∈ [Markup.declaration, .opening "trace".toList, .opening "info".toList],
      m.name.all isLasting := by decide
  have back : ∀ m ∈ [Markup.closing "info".toList, .closing "trace".toList], m.name.all isLasting := by decide
  unfold markup
  simp only [List.forall_mem_append]
  exact ⟨⟨⟨⟨⟨⟨front, single _ (by decide)⟩, arguments⟩, status⟩, single _ (by decide)⟩, single _ (by decide)⟩, back⟩

/-- Every text of a session stands between two tags. -/
theorem areApart_markup (s : Session) : Markup.areApart (markup s) := by
  have arguments : ∀ (as : List Text) (ms : List Markup),
      Markup.areApart (as.flatMap (element "arg") ++ ms) = Markup.areApart ms := by
    intro as ms
    induction as with
    | nil => rfl
    | cons a as ih => exact ih
  have list : ∀ ms, Markup.areApart (argumentsMarkup s.arguments ++ ms) = Markup.areApart ms := by
    intro ms
    unfold argumentsMarkup
    split
    · rfl
    · show Markup.areApart (s.arguments.flatMap (element "arg") ++ [.closing "args".toList] ++ ms) = _
      rw [List.append_assoc, arguments]
      rfl
  have status : ∀ ms, Markup.areApart ((s.statusText?.map (element "exit_status")).getD [] ++ ms) =
      Markup.areApart ms := by
    intro ms
    cases s.statusText? with
    | none => rfl
    | some t => rfl
  have front : ∀ (a b : Text) (name : String) (t : Text) (ms : List Markup),
      Markup.areApart ([.declaration, .opening a, .opening b] ++ (element name t ++ ms)) = Markup.areApart ms :=
    fun _ _ _ _ _ => rfl
  have back : ∀ (name name' : String) (t t' a b : Text),
      Markup.areApart (element name t ++ (element name' t' ++ [.closing a, .closing b])) :=
    fun _ _ _ _ _ _ => rfl
  unfold markup
  rw [List.append_assoc, List.append_assoc, List.append_assoc, List.append_assoc, List.append_assoc, front, list,
    status]
  exact back ..

/-- Turning the line ends of a session's markup gives the markup of the session with its line ends turned. -/
theorem map_normalised_markup (s : Session) : (markup s).map Markup.normalised = markup (turned s) := by
  have single : ∀ (name : String) (t : Text),
      (element name t).map Markup.normalised = element name (normalised t) := fun _ _ => rfl
  have own : ∀ t ∈ ownTexts s, normalised t = t := fun t h =>
    normalised_eq_self (return_notMem_of_isLasting (isLasting_ownTexts h))
  have arguments : (argumentsMarkup s.arguments).map Markup.normalised =
      argumentsMarkup (s.arguments.map normalised) := by
    unfold argumentsMarkup
    by_cases none : s.arguments = []
    · rw [none]
      rfl
    · have some : s.arguments.map normalised ≠ [] := by simpa using none
      rw [if_neg none, if_neg some, List.map_append, List.map_cons, List.map_flatMap, List.flatMap_map]
      rfl
  have status : ((s.statusText?.map (element "exit_status")).getD []).map Markup.normalised =
      (s.statusText?.map (element "exit_status")).getD [] := by
    cases asked : s.statusText? with
    | none => rfl
    | some t =>
      have same : normalised t = t := own t (by simp [ownTexts, asked])
      show (element "exit_status" t).map Markup.normalised = element "exit_status" t
      rw [single, same]
  have elapsed : normalised s.elapsedText = s.elapsedText := own _ (by simp [ownTexts])
  have start : normalised s.startText = s.startText := own _ (by simp [ownTexts])
  unfold markup
  rw [List.map_append, List.map_append, List.map_append, List.map_append, List.map_append, List.map_append, single,
    single, single, arguments, status, elapsed, start]
  rfl

/-! ## Documents -/

/-- The document of a session with its line ends turned is that of the session turned. -/
theorem normalised_document (s : Session) : normalised (document s) = document (turned s) := by
  have laid := Layout.normalised_pieces (isLasting_names s) (areApart_markup s) .start ['\n']
  rw [map_normalised_markup] at laid
  exact laid

/-- A document holds `Char`s alone exactly if the program and the arguments do. -/
theorem all_isChar_document (s : Session) :
    (document s).all isChar = (s.program :: s.arguments).all fun t => t.all isChar := by
  have own : (ownTexts s).flatten.all isChar = true := by
    rw [List.all_flatten, List.all_eq_true]
    exact fun t h => all_isChar_of_isLasting (isLasting_ownTexts h)
  have last : ['\n'].all isChar = true := by decide
  rw [document, List.all_append, last, pieces, Layout.all_isChar_pieces (isLasting_names s), content_markup,
    List.all_append, own, List.all_flatten, Bool.and_true, Bool.and_true]

/-- **What a processor reads**: the session with its line ends turned, if its texts hold `Char`s alone. -/
theorem process_document (s : Session) :
    process (document s).toUtf8 =
      if (s.program :: s.arguments).all fun t => t.all isChar then some (sessionElement (turned s)) else none := by
  have read : readDocument (document (turned s)) = some (sessionElement (turned s)) := by
    rw [document, readDocument, List.foldlM_append, foldlM_pieces]
    rfl
  rw [process, toText?_toUtf8, Option.bind_eq_bind, Option.bind_some, normalised_document, read,
    all_isChar_document]

/-- A session shows as it was after its line ends are turned exactly if its texts hold no CR. -/
theorem sessionElement_turned_iff {s : Session} :
    sessionElement (turned s) = sessionElement s ↔ ∀ t ∈ s.program :: s.arguments, '\r' ∉ t := by
  constructor
  · intro same
    have elements : sessionElements (turned s) = sessionElements s := by
      simpa only [sessionElement, Element.parent.injEq, List.cons.injEq, true_and, and_true] using same
    simp only [sessionElements, turned, List.cons_append, List.cons.injEq, Element.leaf.injEq, Element.parent.injEq,
      true_and] at elements
    obtain ⟨program, arguments, -⟩ := elements
    rw [List.map_map, List.map_inj_left] at arguments
    intro t mem
    apply normalised_eq_self_iff.mp
    obtain rfl | mem := List.mem_cons.mp mem
    · exact program
    · exact (Element.leaf.inj (arguments t mem)).2
  · intro none
    have program : normalised s.program = s.program := normalised_eq_self (none _ (List.mem_cons_self ..))
    have arguments : s.arguments.map normalised = s.arguments := by
      have each : ∀ t ∈ s.arguments, normalised t = id t :=
        fun t mem => normalised_eq_self (none t (List.mem_cons_of_mem _ mem))
      rw [List.map_congr_left each, List.map_id]
    rw [turned, program, arguments]

/-- **Which sessions a processor gives back.**  The document arrives whole.  It holds `Char`s alone exactly if the
program and the arguments do, and a processor reads from it the session as it was exactly if they hold no CR
either. -/
theorem process_document_iff (s : Session) :
    emit none s .xml = .ok (document s).toUtf8 ∧
      ((∀ c ∈ document s, isChar c) ↔ ∀ t ∈ s.program :: s.arguments, ∀ c ∈ t, isChar c) ∧
      (process (document s).toUtf8 = some (sessionElement s) ↔
        ∀ t ∈ s.program :: s.arguments, ∀ c ∈ t, isChar c ∧ c ≠ '\r') := by
  have texts : ((s.program :: s.arguments).all fun t => t.all isChar) = true ↔
      ∀ t ∈ s.program :: s.arguments, ∀ c ∈ t, isChar c := by
    simp only [List.all_eq_true]
  refine ⟨emit_eq_render (by simp) s .xml, ?_, ?_⟩
  · rw [← texts, ← all_isChar_document, List.all_eq_true]
  · rw [process_document]
    split
    case isTrue chars =>
      rw [texts] at chars
      rw [Option.some.injEq, sessionElement_turned_iff]
      constructor
      · intro none t mem c hc
        exact ⟨chars t mem c hc, fun same => none t mem (same ▸ hc)⟩
      · intro lasting t mem hc
        exact (lasting t mem _ hc).2 rfl
    case isFalse other =>
      rw [texts] at other
      constructor
      · intro read
        cases read
      · intro lasting
        exact absurd (fun t mem c hc => (lasting t mem c hc).1) other

/-- **Not every session that a launch can record comes back**: there are characters that no document can hold, and
where there are none, a CR is read as LF. -/
theorem not_all_process_document :
    ¬(∀ s : Session, (∀ t ∈ s.program :: s.arguments, '\x00' ∉ t) → (document s).all isChar) ∧
      ¬∀ s : Session, (∀ t ∈ s.program :: s.arguments, '\x00' ∉ t) → (document s).all isChar →
        process (document s).toUtf8 = some (sessionElement s) := by
  constructor
  · intro claim
    have holds := claim ⟨['p'], [['\x01']], ⟨0, 0⟩, ⟨0, 0⟩, some 0⟩ (by decide)
    rw [all_isChar_document] at holds
    exact absurd holds (by decide)
  · intro claim
    have holds : (document ⟨['p'], [['a', '\r', 'b']], ⟨0, 0⟩, ⟨0, 0⟩, some 0⟩).all isChar = true := by
      rw [all_isChar_document]
      decide
    have read := claim _ (by decide) holds
    rw [process_document, if_pos (by decide), Option.some.injEq, sessionElement_turned_iff] at read
    exact absurd (read ['a', '\r', 'b'] (by decide)) (by decide)

end Export.Xml

end ProgramTrace
