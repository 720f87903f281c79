import ProgramTrace.Session

/-!
# `ProgramTrace.Export.Csv` — a session as two CSV records.

The first record is the header.  A field that holds a comma, a quote or a line break stands in quotes.
The arguments share one field: each stands in quotes whatever it holds, so that no arguments and one
empty argument differ.
-/

namespace ProgramTrace.Export.Csv

/-- A text with each of its quotes written twice. -/
def doubled : Text → Text
  | [] => []
  | c :: cs => if c = '"' then '"' :: '"' :: doubled cs else c :: doubled cs

def quoted (t : Text) : Text := '"' :: doubled t ++ ['"']

def isSpecial (c : Char) : Bool := c == ',' || c == '"' || c == '\r' || c == '\n'

def field (t : Text) : Text := if t.any isSpecial then quoted t else t

def argumentsCell (arguments : List Text) : Text :=
  [' '].intercalate (arguments.map quoted)

def record (fields : List Text) : Text := [','].intercalate (fields.map field)

def header : List Text :=
  ["program".toList, "arguments".toList, "exit_status".toList, "elapsed_ms".toList,
    "utc_timestamp".toList]

def cells (s : Session) : List Text :=
  [s.program, argumentsCell s.arguments, s.statusText?.getD [], s.elapsedText, s.startText]

/-- The pieces in which a session is written. -/
def pieces (s : Session) : List Text := [record header, ['\n'], record (cells s), ['\n']]

def document (s : Session) : Text := (pieces s).flatten

end ProgramTrace.Export.Csv
