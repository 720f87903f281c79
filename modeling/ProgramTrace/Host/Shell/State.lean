import ProgramTrace.Host.Shell.Field
import ProgramTrace.Host.Shell.Script
import ProgramTrace.Host.Signal

/-!
# `ProgramTrace.Host.Shell.State` — what a shell keeps.

`break`, `continue` and `return` end nothing by themselves: they are noted (`Skip`), and everything after
them is passed over until the loop or the function is reached.  What a command or a function changes for
its own time is kept beside the variables, so that it can be put back (`State.pushLocals`,
`State.popLocals`).
-/

namespace ProgramTrace.Host.Shell

/-! ## The state of a shell -/

/-- A variable: its value, if it has one, whether the programs that the shell starts get it, and whether
it can be changed. -/
structure Variable where
  value : Option Octets
  exported : Bool
  fixed : Bool

/-- What is passed over. -/
inductive Skip where
  | nothing
  /-- What is left of a round of loops, and the further rounds of all but the last of them; with `again`,
  that one goes on. -/
  | rounds (levels : Nat) (again : Bool)
  /-- What is left of a function or of a script that has been read in. -/
  | function
  deriving DecidableEq, Repr

structure Setting where
  bindings : List (Octets × Variable)
  functions : List (Octets × Command)
  aliases : List (Octets × Octets)
  /-- The texts for streams in all commands that have been read, and the number of the next one. -/
  documents : List (Nat × Word)
  nextDocument : Nat
  zero : Octets
  positional : List Octets
  status : Nat
  /-- The status of the command substitution that was carried out last in this command. -/
  substituted : Nat
  process : Nat
  /-- The process that carries out the commands, which is the shell itself or a copy of it, and the one
  that started it. -/
  own : Nat
  above : Nat
  options : List Char
  /-- What is done about signals, which for a passed over one is nothing; the end of the shell counts as
  signal 0. -/
  traps : List (Nat × Octets)
  /-- The signals that are passed over whatever is to be done about them. -/
  ignored : List Nat
  caught : List Nat
  /-- The status before the action about a signal that is carried out. -/
  interrupted : Option Nat
  latestJob : Option Nat
  line : Nat
  /-- The command that the shell carries out itself, for what it says. -/
  speaking : Option Octets
  /-- Whether output of that command was not taken. -/
  muted : Bool
  skip : Skip
  /-- How many loops, and how many functions, are being carried out. -/
  loops : Nat
  calls : Nat
  /-- What functions and single commands have changed for their own time, the innermost one first: names
  of variables with what they were before, and the options. -/
  locals : List (List (Octets × Option Variable) × Option (List Char))
  /-- The argument that `getopts` reads next, and how many characters of the one before it have been read,
  if any are left. -/
  optionPlace : Nat
  optionOffset : Option Nat
  streams : Streams
  mask : Nat

/-- A command that was not waited for: its process, when it began, how it ended, and when.  What it does
may still be to be done, on a copy of the shell. -/
structure Job where
  number : Nat
  process : Nat
  begun : Nat
  ended : Nat
  ending : Ending
  pending : Option (Setting × Command)
  told : Bool

/-- The state of a shell: that which its copies start with, and its jobs, the latest first. -/
structure State extends Setting where
  jobs : List Job

/-! ## Variables -/

namespace State

def has (s : State) (letter : Char) : Bool := s.options.contains letter

def valueOf? (s : State) (name : Octets) : Option Octets := (s.bindings.lookup name).bind (·.value)

def put (s : State) (name : Octets) (v : Variable) : State :=
  { s with bindings := (name, v) :: s.bindings.filter (·.1 != name) }

/-- The variable under a name, which has no value if there is none. -/
def variableOf (s : State) (name : Octets) : Variable :=
  (s.bindings.lookup name).getD ⟨none, false, false⟩

def assign (s : State) (name value : Octets) : State :=
  let v := s.variableOf name
  s.put name { v with value := some value, exported := v.exported || s.has 'a' }

def forget (s : State) (name : Octets) : State :=
  { s with bindings := s.bindings.filter (·.1 != name) }

def restore (s : State) (name : Octets) : Option Variable → State
  | some v => s.put name v
  | none => s.forget name

/-- Keeps what a variable is, so that it can be restored; a name is kept once. -/
def keep (s : State) (name : Octets) : State :=
  match s.locals with
  | [] => s
  | (kept, options) :: outer =>
    if kept.any (·.1 == name) then s
    else { s with locals := ((name, s.bindings.lookup name) :: kept, options) :: outer }

def pushLocals (s : State) : State := { s with locals := ([], none) :: s.locals }

def popLocals (s : State) : State :=
  match s.locals with
  | [] => s
  | (kept, options) :: outer =>
    let s := kept.foldl (fun s (name, v) => s.restore name v) s
    { s with locals := outer, options := options.getD s.options }

def environment (s : State) : List (Octets × Octets) :=
  s.bindings.filterMap fun (name, v) => if v.exported then v.value.map fun t => (name, t) else none

def inheritance (s : State) (parent : Nat) : Inheritance where
  streams := s.streams
  environment := s.environment
  parent := parent
  mask := s.mask
  ignored := (s.traps.filter fun t => t.2 = [] && t.1 ≠ 0).map (·.1) ++ s.ignored

def separators (s : State) : Octets := (s.valueOf? "IFS".toList).getD [' ', '\t', '\n']

def searchPath (s : State) : Octets := (s.valueOf? "PATH".toList).getD []

/-- The letters of options, in the order in which they are shown. -/
def optionOrder : List Char := "pubaCEVvxsnmiIfe".toList

/-- The value of a parameter other than a list of arguments. -/
def parameter? (s : State) (name : Octets) : Option Octets :=
  match name with
  | ['?'] => some (Decimal.ofNat s.status)
  | ['$'] => some (Decimal.ofNat s.process)
  | ['#'] => some (Decimal.ofNat s.positional.length)
  | ['!'] => s.latestJob.map Decimal.ofNat
  | ['-'] => some (optionOrder.filter s.options.contains)
  | _ =>
    match Decimal.toNat? name with
    | some 0 => some s.zero
    | some (n + 1) => s.positional[n]?
    | none => s.valueOf? name

def hasTraps (s : State) : Bool := s.traps.any (·.2 ≠ [])

end State

end ProgramTrace.Host.Shell
