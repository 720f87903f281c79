import ProgramTrace.Host.System
import ProgramTrace.Tool
import Std.Time.DateTime.Timestamp

/-!
# `ProgramTrace.Main` — the tool as a program.

The arguments, the environment, the clock and the two streams of this process are handed to `Tool.execute`,
which runs on the system of `Host.System`; what it writes to the streams and its status are handed back.
Nothing is decided here.
-/

namespace ProgramTrace.Main

def now : IO Instant := do
  let nanos := (← Std.Time.Timestamp.now).toNanosecondsSinceUnixEpoch.val
  return ⟨nanos / 1000000000, (nanos % 1000000000).toNat⟩

/-- The variables of this process that the tool and its programs look at, where they are set. -/
def environment : IO Tool.Environment :=
  ["RUST_LOG", "NO_COLOR", "CLICOLOR_FORCE", "CLICOLOR", "TERM", "CI", "PATH", "HOME", "CDPATH",
      "LC_ALL"].filterMapM fun name => do
    return (← IO.getEnv name).map fun value => (name.toList, value.toList)

/-- A stream of this process, as far as it can be known before anything is written to it. -/
def present (stream : IO.FS.Stream) : IO Stream := return ⟨← stream.isTty, none⟩

def send (stream : IO.FS.Stream) (bytes : Bytes) : IO Unit := do
  stream.write ⟨bytes.toArray⟩
  stream.flush

end ProgramTrace.Main

open ProgramTrace in
/-- Runs the tool once; its status is that of the process. -/
def main (arguments : List String) : IO UInt32 := do
  let environment ← Main.environment
  let machine := { Host.machine (← Main.now) environment true with
    stdout := ← Main.present (← IO.getStdout)
    stderr := ← Main.present (← IO.getStderr) }
  let report :=
    Tool.execute machine environment Host.emptyStore (arguments.map fun a => Text.toUtf8 a.toList)
  Main.send (← IO.getStdout) report.stdout
  Main.send (← IO.getStderr) report.stderr
  return report.status.toUInt32
