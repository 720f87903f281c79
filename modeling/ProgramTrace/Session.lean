import ProgramTrace.Time.Instant

/-!
# `ProgramTrace.Session` — what a command line asks for, and what is recorded of a launch.
-/

namespace ProgramTrace

/-! ## Requests -/

namespace Export

inductive Format where
  | csv
  | xml
  deriving DecidableEq, Repr

/-- The name of a format, which also names the option that asks for it. -/
def Format.name : Format → Text
  | .csv => "csv".toList
  | .xml => "xml".toList

end Export

open Export (Format)

/-- A program to launch, its arguments, and where its session is to be written. -/
structure Request where
  csvPath : Option Text
  xmlPath : Option Text
  program : Text
  arguments : List Text
  deriving DecidableEq, Repr

namespace Request

def path? (r : Request) : Format → Option Text
  | .csv => r.csvPath
  | .xml => r.xmlPath

/-- The exports asked for, in the order in which they are written: CSV first. -/
def targets (r : Request) : List (Format × Text) :=
  r.csvPath.toList.map (Format.csv, ·) ++ r.xmlPath.toList.map (Format.xml, ·)

theorem mem_targets_iff {r : Request} {f : Format} {p : Text} :
    (f, p) ∈ r.targets ↔ r.path? f = some p := by
  cases f <;> simp [targets, path?]

end Request

/-! ## Sessions -/

/-- What is recorded of a program that was launched and has ended.  There is no exit status if a signal
ended it. -/
structure Session where
  program : Text
  arguments : List Text
  startedAt : Instant
  elapsed : Duration
  exitStatus : Option Int
  deriving DecidableEq, Repr

namespace Session

/-- Whether the program ended with status 0. -/
def success (s : Session) : Bool := s.exitStatus = some 0

/-- How long the program ran, in whole milliseconds. -/
def elapsedText (s : Session) : Text := Decimal.ofNat s.elapsed.toMillis

def startText (s : Session) : Text := s.startedAt.stamp

def statusText? (s : Session) : Option Text := s.exitStatus.map Decimal.ofInt

end Session

end ProgramTrace
