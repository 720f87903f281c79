import ProgramTrace.Session
import ProgramTrace.Terminal.Style
import ProgramTrace.Text.Classes

/-!
# `ProgramTrace.Log.Event` — what a run reports about itself.

An event is a cause with its details.  Its level, its origin and its text are functions of it, so that a
statement about a log can speak of events and need not read lines.

Some texts stand in it as literals (`Literal`), on one line and so that each can be told from every other:
double quotes and backslashes are escaped, five controls have a letter, and a character that would not be
seen is written by its number in hexadecimal.

A line (`Log.line`) holds the time, the level, the origin and the text of an event, in colour or not.
Characters of the text that a terminal would take for a command are written by number there; line feeds
and tabs stay.
-/

namespace ProgramTrace

/-! ## Literals -/

namespace Literal

/-- The hexadecimal number of a character between braces. -/
def numbered (c : Char) : Text :=
  ['\\', 'u', '\x7b'] ++ Nat.toDigits 16 c.toNat ++ ['\x7d']

/-- A character as it stands in a literal. -/
def escape (c : Char) : Text :=
  if c = '\x00' then ['\\', '0']
  else if c = '\t' then ['\\', 't']
  else if c = '\n' then ['\\', 'n']
  else if c = '\r' then ['\\', 'r']
  else if c = '"' then ['\\', '"']
  else if c = '\\' then ['\\', '\\']
  else if Unshown.mem c then numbered c
  else [c]

/-- A text as a literal. -/
def ofText (t : Text) : Text := '"' :: t.flatMap escape ++ ['"']

/-- A list of texts as literals between brackets. -/
def ofTexts (ts : List Text) : Text :=
  '[' :: [',', ' '].intercalate (ts.map ofText) ++ [']']

/-- A text that may be missing. -/
def ofText? : Option Text → Text
  | none => "None".toList
  | some t => "Some(".toList ++ ofText t ++ [')']

end Literal

/-! ## Endings -/

/-- How a program ended. -/
inductive Ending where
  | exited (status : Nat)
  | signalled (number : Nat)
  deriving DecidableEq, Repr

namespace Ending

/-- The exit status of an ending, which a signal does not give. -/
def status? : Ending → Option Int
  | .exited n => some n
  | .signalled _ => none

/-- The names of the signals, from signal 1 on. -/
def signalNames : List String :=
  ["SIGHUP", "SIGINT", "SIGQUIT", "SIGILL", "SIGTRAP", "SIGABRT", "SIGBUS", "SIGFPE", "SIGKILL",
    "SIGUSR1", "SIGSEGV", "SIGUSR2", "SIGPIPE", "SIGALRM", "SIGTERM", "SIGSTKFLT", "SIGCHLD",
    "SIGCONT", "SIGSTOP", "SIGTSTP", "SIGTTIN", "SIGTTOU", "SIGURG", "SIGXCPU", "SIGXFSZ",
    "SIGVTALRM", "SIGPROF", "SIGWINCH", "SIGIO", "SIGPWR", "SIGSYS"]

/-- The name of a signal in brackets; a number beyond the names has none. -/
def signalNote (number : Nat) : Text :=
  match number with
  | 0 => []
  | n + 1 =>
    match signalNames[n]? with
    | some name => " (".toList ++ name.toList ++ [')']
    | none => []

/-- An ending in words. -/
def text : Ending → Text
  | .exited n => "exit status: ".toList ++ Decimal.ofNat n
  | .signalled n => "signal: ".toList ++ Decimal.ofNat n ++ signalNote n

end Ending

namespace Log

open Export (Format)

/-! ## Levels -/

/-- How weighty an event is. -/
inductive Level where
  | error
  | warn
  | info
  | debug
  | trace
  deriving DecidableEq, Repr

namespace Level

/-- The rank of a level, higher for a finer one. -/
def rank : Level → Nat
  | .error => 1
  | .warn => 2
  | .info => 3
  | .debug => 4
  | .trace => 5

/-- The name of a level in a log line. -/
def name : Level → Text
  | .error => "ERROR".toList
  | .warn => "WARN".toList
  | .info => "INFO".toList
  | .debug => "DEBUG".toList
  | .trace => "TRACE".toList

end Level

/-! ## Events -/

/-- The events of a run. -/
inductive Event where
  | requested (r : Request)
  | tracing (program : Text) (argumentCount : Nat)
  | launching (resolved : Text) (arguments : List Text)
  | ended (program : Text) (ending : Ending) (elapsed : Duration)
  /-- The program ended with a status other than 0. -/
  | endedWithStatus (program : Text) (status : Int)
  /-- A signal ended the program. -/
  | endedBySignal (program : Text)
  | nothingToExport
  | exported (format : Format) (path : Text)
  deriving DecidableEq, Repr

namespace Event

/-- The level of an event. -/
def level : Event → Level
  | .requested _ | .launching .. | .ended .. | .nothingToExport => .debug
  | .tracing .. | .exported .. => .info
  | .endedWithStatus .. | .endedBySignal _ => .warn

/-- The part of the tool that an event comes from. -/
def origin : Event → Text
  | .launching .. | .ended .. => "cg_trace::trace::launcher".toList
  | _ => "cg_trace::cli::runner".toList

/-- A request with its fields named. -/
def requestText (r : Request) : Text :=
  "ParsedArguments \x7b csv_path: ".toList ++ Literal.ofText? r.csvPath ++
  ", xml_path: ".toList ++ Literal.ofText? r.xmlPath ++
  ", program_name: ".toList ++ Literal.ofText r.program ++
  ", remainder_arguments: ".toList ++ Literal.ofTexts r.arguments ++ " \x7d".toList

/-- The text of an event. -/
def text : Event → Text
  | .requested r => "Parsed arguments: ".toList ++ requestText r
  | .tracing program n =>
    "Tracing ".toList ++ program ++ " with ".toList ++ Decimal.ofNat n ++ " argument(s)".toList
  | .launching resolved arguments =>
    "Launching ".toList ++ Literal.ofText resolved ++ " with arguments ".toList ++
      Literal.ofTexts arguments
  | .ended program ending elapsed =>
    program ++ " exited with ".toList ++ ending.text ++ " after ".toList ++ elapsed.text
  | .endedWithStatus program status =>
    program ++ " exited with status ".toList ++ Decimal.ofInt status
  | .endedBySignal program => program ++ " was terminated by a signal".toList
  | .nothingToExport => "No export requested".toList
  | .exported format path =>
    "Wrote ".toList ++ format.name ++ " trace: ".toList ++ path

end Event

/-! ## Lines -/

open Terminal (display)

/-- A character of an event's text as it stands in a line. -/
def guarded (c : Char) : Text :=
  if c = '\x1b' then "\\x1b".toList
  else if c = '\x07' then "\\x07".toList
  else if c = '\x08' then "\\x08".toList
  else if c = '\x0c' then "\\x0c".toList
  else if c = '\x7f' then "\\x7f".toList
  else if 0x80 ≤ c.toNat ∧ c.toNat ≤ 0x9F then Literal.numbered c
  else [c]

def Level.colour : Level → Text
  | .error => "31".toList
  | .warn => "33".toList
  | .info => "32".toList
  | .debug => "34".toList
  | .trace => "35".toList

/-- The name of a level, moved to the right of five places. -/
def Level.field (l : Level) : Text := List.replicate (5 - l.name.length) ' ' ++ l.name

/-- A text in a display code, or as it is. -/
def tinted (colour : Bool) (code : Text) (t : Text) : Text :=
  if colour then display code ++ t ++ display ['0'] else t

def pale : Text := ['2']

def line (colour : Bool) (at' : Instant) (e : Event) : Text :=
  tinted colour pale at'.fineStamp ++ ' ' ::
    tinted colour e.level.colour e.level.field ++ ' ' ::
    tinted colour pale e.origin ++ tinted colour pale [':'] ++ ' ' ::
    e.text.flatMap guarded ++ ['\n']

end Log

end ProgramTrace
