import ProgramTrace.CommandLine.Reader
import ProgramTrace.Log.Filter
import ProgramTrace.Run

/-!
# `ProgramTrace.Tool` — the command-line tool as a function.

The tool reads its command line, sets up its log from the environment, carries out the request and
reports a status, its two streams and the files as they are left.

A standard error that does not take a line of the tool's own ends the tool at that line, with a status of
its own (`brokenStatus`): at a line of the log nothing that would come after it is done
(`LogSetup.attend`).  What is said about a command line ends nothing, whether or not it is taken.
-/

namespace ProgramTrace.Tool

open Files (Store)
open CommandLine (Refusal)

/-! ## The environment -/

abbrev Environment := List (Text × Text)

namespace Environment

def value? (e : Environment) (name : String) : Option Text := e.lookup name.toList

/-- Whether `NO_COLOR` leaves room for colour: it is not set, or it is empty. -/
def allowsColour (e : Environment) : Bool := ((e.value? "NO_COLOR").getD []).isEmpty

/-- Whether colour is wanted on a stream: on any with `CLICOLOR_FORCE`, and otherwise on a terminal,
unless `CLICOLOR` is 0 or nothing tells that the terminal has colours. -/
def wantsColour (e : Environment) (s : Stream) : Bool :=
  (e.value? "CLICOLOR_FORCE").any (· ≠ ['0']) ||
    s.terminal && e.value? "CLICOLOR" ≠ some ['0'] &&
      ((e.value? "TERM").any (· ≠ "dumb".toList) ||
        (e.value? "CLICOLOR").isSome || (e.value? "CI").isSome)

/-- Whether what is said about a command line is in colour on a stream. -/
def colours (e : Environment) (s : Stream) : Bool := e.allowsColour && e.wantsColour s

end Environment

structure LogSetup where
  filter : Log.Filter
  colour : Bool
  deriving DecidableEq, Repr

def LogSetup.ofEnvironment (e : Environment) : LogSetup :=
  { filter := Log.Filter.ofSetting (e.value? "RUST_LOG"), colour := e.allowsColour }

/-! ## Streams -/

inductive Message where
  | logged (line : Text)
  /-- What the launched program wrote. -/
  | passed (bytes : Bytes)
  /-- An export whose path leads to standard error. -/
  | shown (bytes : Bytes)
  | refused (text : Text)
  | failed (line : Text)
  deriving DecidableEq, Repr

def Message.bytes : Message → Bytes
  | .logged t | .refused t | .failed t => t.toUtf8
  | .passed b | .shown b => b

/-- What the log makes of a notice, and what the launched program wrote. -/
def LogSetup.messages (l : LogSetup) : Notice → List Message
  | .event time _ e => if l.filter.lets e then [.logged (Log.line l.colour time e)] else []
  | .output _ stderr => [.passed stderr]
  | .shown .. => []

def LogSetup.said (l : LogSetup) : Notice → List Message
  | .shown _ stderr => [.shown stderr]
  | n => l.messages n

def stdoutOf : Notice → Bytes
  | .event .. => []
  | .output stdout _ | .shown stdout _ => stdout

/-- The files at a notice whose line of the log is not taken whole after what has been written before. -/
def LogSetup.halt? (l : LogSetup) (stderr : Stream) (before : Bytes) : Notice → Option Store
  | .event time files e =>
    if l.filter.lets e && !stderr.takes (before ++ (Log.line l.colour time e).toUtf8) then some files
    else none
  | _ => none

/-- What is heard of a run: all notices, or those up to a line of the log that is not taken, and then the
files at that line. -/
def LogSetup.attend (l : LogSetup) (stderr : Stream) :
    Bytes → List Notice → List Notice × Option Store
  | _, [] => ([], none)
  | before, n :: ns =>
    match l.halt? stderr before n with
    | some files => ([n], some files)
    | none =>
      let (heard, halted) := l.attend stderr (before ++ (l.said n).flatMap Message.bytes) ns
      (n :: heard, halted)

/-! ## The tool -/

/-- What is left when the tool has ended.  The messages have been written to standard error, the last of
them perhaps in vain; `stderr` is what it has taken. -/
structure Report where
  status : Nat
  stdout : Bytes
  messages : List Message
  stderr : Bytes
  files : Store
  deriving DecidableEq, Repr

def Report.of (m : Machine) (status : Nat) (stdout : Bytes) (messages : List Message)
    (files : Store) : Report :=
  { status, messages, files
    stdout := m.stdout.taken stdout
    stderr := m.stderr.taken (messages.flatMap Message.bytes) }

/-- The status where standard error has not taken a line of the tool's own. -/
def brokenStatus : Nat := 101

def refuse (m : Machine) (e : Environment) (files : Store) (r : Refusal) : Report :=
  if r.isMistake then .of m r.status [] [.refused (r.printed (e.colours m.stderr))] files
  else .of m r.status (r.printed (e.colours m.stdout)).toUtf8 [] files

def failureLine (e : Failure) : Text :=
  CommandLine.toolName ++ ": ".toList ++ e.message ++ ['\n']

def conclude (m : Machine) (l : LogSetup) (o : Outcome Session) : Report :=
  let (heard, halted) := l.attend m.stderr [] o.notices
  let said := heard.flatMap l.said
  let stdout := heard.flatMap stdoutOf
  match halted, o.result with
  | some files, _ => .of m brokenStatus stdout said files
  | none, .ok _ => .of m 0 stdout said o.files
  | none, .error e =>
    let said := said ++ [.failed (failureLine e)]
    let taken := m.stderr.takes (said.flatMap Message.bytes)
    .of m (if taken then e.status else brokenStatus) stdout said o.files

/-- The tool on a machine, with an environment, files and a command line. -/
def execute (m : Machine) (e : Environment) (files : Store) (tokens : List Bytes) : Report :=
  match CommandLine.read tokens with
  | .error r => refuse m e files r
  | .ok request => conclude m (.ofEnvironment e) (run m files request)

end ProgramTrace.Tool
