import ProgramTrace.Terminal.Control

/-!
# `ProgramTrace.Terminal.Style` — messages with colours, and the plain text of them.

A message is a list of spans, each in one style.  `Message.coloured` is what a colour terminal gets: a
styled span stands between its codes and the reset code.  `Message.plain` is that text with all terminal
control taken out again, whether it comes from the styles or from inside a span, and `Message.streamed`
is what is left of it on the way to a stream that is no terminal.
-/

namespace ProgramTrace.Terminal

inductive Style where
  | normal
  | heading
  | error
  | invalid
  | valid
  | literal
  deriving DecidableEq, Repr

/-- The display codes of a style, in the order in which they are sent. -/
def Style.codes : Style → List Text
  | .normal => []
  | .heading => ["1".toList, "4".toList]
  | .error => ["1".toList, "31".toList]
  | .invalid => ["33".toList]
  | .valid => ["32".toList]
  | .literal => ["1".toList]

/-- The control sequence of one display code. -/
def display (code : Text) : Text := '\x1b' :: '[' :: code ++ ['m']

structure Span where
  style : Style
  text : Text
  deriving DecidableEq, Repr

/-- A span as a colour terminal gets it. -/
def Span.coloured (s : Span) : Text :=
  if s.style = .normal then s.text
  else s.style.codes.flatMap display ++ s.text ++ display ['0']

abbrev Message := List Span

def Message.coloured (m : Message) : Text := m.flatMap Span.coloured

def Message.plain (m : Message) : Text := strip (Message.coloured m)

def Message.streamed (m : Message) : Text := stripStream (Message.coloured m)

def words (s : String) : Span := ⟨.normal, s.toList⟩

def styled (style : Style) (s : String) : Span := ⟨style, s.toList⟩

end ProgramTrace.Terminal
