import ProgramTrace.Failure
import ProgramTrace.Files.Store
import ProgramTrace.Log.Event
import ProgramTrace.Session

/-!
# `ProgramTrace.Launch` — starting a program and recording how it went.

What programs do is not decided here: a `Machine` tells what comes of starting a path with arguments on
given files.  `resolve` turns the name of a program into the path that is started; `launch` starts it and
makes the session.  Both the session and a failure carry the name and the arguments as they were given.
-/

namespace ProgramTrace

open Files (Fault Store)

/-! ## Machines -/

structure Completion where
  ending : Ending
  elapsed : Duration
  files : Store
  stdout : Bytes
  stderr : Bytes
  deriving DecidableEq, Repr

/-- A standard stream of the tool, which is none of the files. -/
structure Stream where
  terminal : Bool
  /-- How many bytes it takes, if it does not take them all. -/
  room : Option Nat
  deriving DecidableEq, Repr

namespace Stream

/-- A stream to another program, which takes everything. -/
def pipe : Stream := ⟨false, none⟩

/-- What it takes of all that it gets. -/
def taken (s : Stream) (bytes : Bytes) : Bytes :=
  match s.room with
  | none => bytes
  | some n => bytes.take n

def takes (s : Stream) (bytes : Bytes) : Bool := s.room.all (bytes.length ≤ ·)

end Stream

structure Call where
  files : Store
  path : Text
  arguments : List Text
  deriving DecidableEq, Repr

/-- Whether a path and its arguments can be handed to a program. -/
def Call.isPassable (c : Call) : Bool := (c.path :: c.arguments).all fun t => !t.contains '\x00'

/-- What is around the tool: a clock, what comes of a call, and the streams. -/
structure Machine where
  clock : Instant
  start : Call → Except Fault Completion
  stdout : Stream := .pipe
  stderr : Stream := .pipe

/-- What comes of a call: one that cannot be handed over is refused before anything is started. -/
def Machine.exec (m : Machine) (c : Call) : Except Fault Completion :=
  if c.isPassable then m.start c else .error .nulInCommand

/-! ## Launching -/

namespace Launch

/-- The directory that a name of one component is looked up in first. -/
def here : Text := ['.']

/-- The path that is started for a program: a name of one component that is a regular file in the current
directory is run from there, and any other is left to the system. -/
def resolve (files : Store) (program : Text) : Text :=
  let local' := Files.Path.join here program
  if (Files.Path.components program).length = 1 ∧ files.isRegularFile local' then local' else program

def call (files : Store) (program : Text) (arguments : List Text) : Call :=
  ⟨files, resolve files program, arguments⟩

def session (m : Machine) (program : Text) (arguments : List Text) (c : Completion) : Session :=
  { program, arguments, startedAt := m.clock, elapsed := c.elapsed, exitStatus := c.ending.status? }

end Launch

/-- Launches a program: its session, and what it left. -/
def launch (m : Machine) (files : Store) (program : Text) (arguments : List Text) :
    Except Failure (Session × Completion) :=
  match m.exec (Launch.call files program arguments) with
  | .ok c => .ok (Launch.session m program arguments c, c)
  | .error cause => .error (.launch program cause)

end ProgramTrace
