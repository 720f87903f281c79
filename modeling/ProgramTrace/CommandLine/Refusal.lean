import ProgramTrace.CommandLine.Token
import ProgramTrace.Terminal.Style
import ProgramTrace.Text.Similarity

/-!
# `ProgramTrace.CommandLine.Refusal` — why a command line gives no request, and what is said about it.

A refusal is a cause.  Two of the causes are wishes, `shown Flag.help` and `shown Flag.version`: their
text goes to standard output and the status is 0.  Every other one is a mistake: its text goes to
standard error and the status is 2.  The texts are written once, as messages in colour
(`Refusal.message`), and are shown plain (`Refusal.text`) or printed (`Refusal.printed`).
-/

namespace ProgramTrace.CommandLine

open Export (Format)
open Terminal

/-- The causes for which no request is made. -/
inductive Refusal where
  /-- A text about the tool was asked for. -/
  | shown (f : Flag)
  /-- There is no program and no option either. -/
  | nothingGiven
  /-- There are options but no program. -/
  | programMissing
  /-- The list of program and arguments is empty. -/
  | programUnnamed
  | valueMissing (f : Format)
  | unknownLong (name : Text)
  /-- A letter that is not known, or what cannot be read as letters. -/
  | unknownLetters (letters : Text)
  | valueUnexpected (f : Flag) (value : Text)
  /-- A program, an argument or a value is not UTF-8. -/
  | illFormed
  deriving DecidableEq, Repr

/-! ## Fixed texts -/

def toolName : Text := "cg-trace".toList

def toolVersion : Text := "0.1.0".toList

def usage : Message :=
  [styled .heading "Usage:", words " cg-trace [--csv PATH] [--xml PATH] PROGNAME [ARG ...]"]

def advice : Message :=
  [words "\n\nFor more information, try '", styled .literal "--help", words "'.\n"]

def help : Message :=
  [words "Launch a program and record its trace session\n\n"] ++ usage ++
  [words "\n\n", styled .heading "Options:", words "\n      ",
    styled .literal "--csv", words " <PATH>  Write trace data in CSV format to PATH\n      ",
    styled .literal "--xml", words " <PATH>  Write trace data in XML format to PATH\n  ",
    styled .literal "-h", words ", ", styled .literal "--help", words "        Print help\n  ",
    styled .literal "-V", words ", ", styled .literal "--version", words "     Print version\n"]

/-! ## Messages -/

/-- The names that an unknown name is compared with, in the order of the help text. -/
def knownNames : List Text := Name.all.map Name.text

/-- The line that points to the known name most like an unknown one, if any is alike. -/
def suggestion (name : Text) : Message :=
  match Similarity.closest? name knownNames with
  | none => []
  | some known =>
    [words "\n\n  ", styled .valid "tip:", words " a similar argument exists: '",
      ⟨.valid, "--".toList ++ known⟩, words "'"]

/-- A report of a mistake: what is wrong, the usage line where it helps, and where to read on. -/
def report (what : Message) (withUsage : Bool) : Message :=
  [styled .error "error:", words " "] ++ what ++
    (if withUsage then words "\n\n" :: usage else []) ++ advice

namespace Refusal

def message : Refusal → Message
  | .shown .help | .nothingGiven => help
  | .shown .version => [⟨.normal, toolName ++ ' ' :: toolVersion ++ ['\n']⟩]
  | .programMissing =>
    report [words "'", ⟨.invalid, toolName⟩,
      words "' requires a subcommand but one was not provided"] true
  | .programUnnamed => report [words "PROGNAME is required"] true
  | .valueMissing f =>
    report [words "a value is required for '",
      ⟨.literal, "--".toList ++ f.name ++ " <PATH>".toList⟩,
      words "' but none was supplied"] false
  | .unknownLong name =>
    report ([words "unexpected argument '", ⟨.invalid, "--".toList ++ name⟩, words "' found"] ++
      suggestion name) true
  | .unknownLetters letters =>
    report [words "unexpected argument '", ⟨.invalid, '-' :: letters⟩, words "' found"] true
  | .valueUnexpected f value =>
    report [words "unexpected value '", ⟨.invalid, value⟩, words "' for '",
      ⟨.literal, "--".toList ++ f.name⟩, words "' found; no more were expected"] true
  | .illFormed => report [words "invalid UTF-8 was detected in one or more arguments"] true

def text (r : Refusal) : Text := r.message.plain

/-- What is printed about a refusal: in colour if that is asked for, and else without terminal control. -/
def printed (colour : Bool) (r : Refusal) : Text :=
  if colour then r.message.coloured else r.message.streamed

/-- Whether a refusal is a mistake in the command line, and not a wish. -/
def isMistake : Refusal → Bool
  | .shown _ => false
  | _ => true

def status (r : Refusal) : Nat := if r.isMistake then 2 else 0

end Refusal

end ProgramTrace.CommandLine
