import ProgramTrace.Export.Write
import ProgramTrace.Launch

/-!
# `ProgramTrace.Run` — a request carried out: launch the program, then write every export.

A run reports events, and in between the program writes to its streams, or an export is written to them;
all this is kept in one list of notices, in order.  A program that fails is a session like any other.
Only a launch or an export that fails makes the run fail, and then nothing after it is done.
-/

namespace ProgramTrace

open Export (Format)
open Files (Store)

inductive Notice where
  /-- An event, and the files as they are then. -/
  | event (time : Instant) (files : Store) (e : Log.Event)
  /-- What the program has written to its standard streams. -/
  | output (stdout stderr : Bytes)
  /-- What an export has written to them. -/
  | shown (stdout stderr : Bytes)
  deriving DecidableEq, Repr

/-- What comes of a part of a run: a result, the files, and what was heard. -/
structure Outcome (α : Type) where
  result : Except Failure α
  files : Store
  notices : List Notice

namespace Run

/-- What is heard of an export that has been written. -/
def exportNotices (time : Instant) (session : Session) (files : Store) (format : Format) (path : Text) :
    List Notice :=
  let (stdout, stderr) := Export.shown files session format path
  [.shown stdout stderr, .event time files (.exported format path)]

/-- Writes a session to targets in order, up to the first failure. -/
def deliver (time : Instant) (session : Session) : List (Format × Text) → Store → Outcome Unit
  | [], files => ⟨.ok (), files, []⟩
  | (format, path) :: rest, files =>
    match Export.write files session format path with
    | (.error e, files) => ⟨.error (.delivery format path e), files, []⟩
    | (.ok (), files) =>
      let later := deliver time session rest files
      { later with notices := exportNotices time session files format path ++ later.notices }

def warning (session : Session) : List Log.Event :=
  if session.success then []
  else match session.exitStatus with
    | some status => [.endedWithStatus session.program status]
    | none => [.endedBySignal session.program]

/-- The events before the program is started. -/
def opening (files : Store) (r : Request) : List Log.Event :=
  [.requested r, .tracing r.program r.arguments.length,
    .launching (Launch.resolve files r.program) r.arguments]

/-- The events after the program has ended and before the first export. -/
def closing (r : Request) (session : Session) (c : Completion) : List Log.Event :=
  .ended r.program c.ending c.elapsed :: warning session ++
    (if r.targets = [] then [.nothingToExport] else [])

end Run

/-- Carries out a request on a machine. -/
def run (m : Machine) (files : Store) (r : Request) : Outcome Session :=
  let before := (Run.opening files r).map (Notice.event m.clock files)
  match launch m files r.program r.arguments with
  | .error e => ⟨.error e, files, before⟩
  | .ok (session, c) =>
    let time := m.clock.after c.elapsed
    let exports := Run.deliver time session r.targets c.files
    { result := exports.result.map fun _ => session
      files := exports.files
      notices := before ++ .output c.stdout c.stderr ::
        (Run.closing r session c).map (Notice.event time c.files) ++ exports.notices }

end ProgramTrace
