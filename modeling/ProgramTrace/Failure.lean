import ProgramTrace.CommandLine.Refusal
import ProgramTrace.Files.Fault

/-!
# `ProgramTrace.Failure` — how a run can fail, and what is said about it.
-/

namespace ProgramTrace

open CommandLine (Refusal)
open Export (Format)
open Files (Fault)

inductive Failure where
  | usage (r : Refusal)
  | launch (program : Text) (cause : Fault)
  /-- An export cannot be written. -/
  | delivery (format : Format) (path : Text) (cause : Failure)
  /-- A file cannot be opened or written. -/
  | io (cause : Fault)
  /-- The device refuses while a document is being written to it. -/
  | document (cause : Fault)
  deriving DecidableEq, Repr

namespace Failure

def message : Failure → Text
  | .usage r => r.text
  | .launch program cause =>
    "Failed to launch ".toList ++ program ++ ": ".toList ++ cause.message
  | .delivery format path cause =>
    "Failed to write ".toList ++ format.name ++ " trace to ".toList ++ path ++ ": ".toList ++
      cause.message
  | .io cause => "I/O error: ".toList ++ cause.message
  | .document cause => "XML writer error: I/O error: ".toList ++ cause.message

def status : Failure → Nat
  | .usage r => r.status
  | _ => 1

def isUsage : Failure → Bool
  | .usage r => r.isMistake
  | _ => false

end Failure

end ProgramTrace
