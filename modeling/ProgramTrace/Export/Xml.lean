import ProgramTrace.Session

/-!
# `ProgramTrace.Export.Xml` — a session as an XML document.

A session becomes a list of markup (`markup`), and the markup is laid out on lines (`Layout.pieces`): a
tag goes on a line of its own, two spaces deeper for each element around it, unless text stands right
before it.  So the text of an element is never moved: the tag before it and the tag after it touch it.
The document is written in small pieces, one for each delimiter, name, indentation and text.
-/

namespace ProgramTrace.Export.Xml

/-! ## Text -/

/-- What stands for a character in the text of an element: the five characters of the markup are
written as entities. -/
def entity (c : Char) : Text :=
  if c = '<' then "&lt;".toList
  else if c = '>' then "&gt;".toList
  else if c = '&' then "&amp;".toList
  else if c = '\'' then "&apos;".toList
  else if c = '"' then "&quot;".toList
  else [c]

def escaped (t : Text) : Text := t.flatMap entity

/-! ## Markup -/

inductive Markup where
  | declaration
  | opening (name : Text)
  | closing (name : Text)
  | empty (name : Text)
  | text (t : Text)
  deriving DecidableEq, Repr

def element (name : String) (t : Text) : List Markup :=
  [.opening name.toList, .text t, .closing name.toList]

/-- The element of a list of arguments, which is an empty tag if there are none. -/
def argumentsMarkup (arguments : List Text) : List Markup :=
  if arguments = [] then [.empty "args".toList]
  else .opening "args".toList :: arguments.flatMap (element "arg") ++ [.closing "args".toList]

def markup (s : Session) : List Markup :=
  [.declaration, .opening "trace".toList, .opening "info".toList] ++
  element "program" s.program ++
  argumentsMarkup s.arguments ++
  (s.statusText?.map (element "exit_status")).getD [] ++
  element "elapsed_ms" s.elapsedText ++
  element "utc_timestamp" s.startText ++
  [.closing "info".toList, .closing "trace".toList]

/-! ## Layout -/

/-- Where the writer stands: how many elements are open, and whether a tag goes on a new line. -/
structure Layout where
  depth : Nat
  breaks : Bool
  deriving DecidableEq, Repr

namespace Layout

def start : Layout := ⟨0, false⟩

/-- What comes before a tag: a line feed and the indentation, if the tag goes on a new line. -/
def lead (l : Layout) : List Text :=
  if l.breaks then [['\n'], List.replicate (2 * l.depth) ' '] else []

/-- The pieces of one item, and the layout after it. -/
def item (l : Layout) : Markup → List Text × Layout
  | .declaration =>
    (l.lead ++ [['<', '?'], "xml version=\"1.0\" encoding=\"UTF-8\"".toList, ['?', '>']],
      ⟨l.depth, true⟩)
  | .opening name => (l.lead ++ [['<'], name, ['>']], ⟨l.depth + 1, true⟩)
  | .closing name =>
    (lead ⟨l.depth - 1, l.breaks⟩ ++ [['<', '/'], name, ['>']], ⟨l.depth - 1, true⟩)
  | .empty name => (l.lead ++ [['<'], name, ['/', '>']], ⟨l.depth, true⟩)
  | .text t => ([escaped t], ⟨l.depth, false⟩)

def pieces (l : Layout) : List Markup → List Text
  | [] => []
  | m :: ms => (l.item m).1 ++ pieces (l.item m).2 ms

end Layout

/-! ## Documents -/

/-- The XML form of a session, without its last line feed, in the pieces in which it is written. -/
def pieces (s : Session) : List Text := Layout.start.pieces (markup s)

def document (s : Session) : Text := (pieces s).flatten ++ ['\n']

end ProgramTrace.Export.Xml
