import ProgramTrace.Host.Shell.Listing

/-!
# `ProgramTrace.Host.Shell.Job` — jobs and signals as a shell deals with them.

A job is a command that was not waited for.  Its end is known from the start, but a signal can bring
another end before that.
-/

namespace ProgramTrace.Host.Shell.Act

/-! ## Signals -/

/-- What is said about the arguments of `kill`. -/
def killUsage : Act α :=
  fail ("Usage: kill [-s sigspec | -signum | -sigspec] [pid | job]... or\n" ++
    "kill -l [exitstatus]").toList

/-- Ends a job by a signal, if it is running and the signal ends processes. -/
def signalJob (process signal now : Nat) (j : Job) : Job :=
  if j.process = process ∧ now < j.ended ∧ Signal.isFatal signal then
    { j with ended := now, ending := .signalled signal, pending := none }
  else j

/-- Sends a signal to a process: whether there is such a process. -/
def send (signal process : Nat) : Act Bool := do
  let s ← shell
  let w ← world
  if process = s.own then
    if signal ≠ 0 then receive signal
    return true
  else if s.jobs.any fun j => j.process = process && !j.told then
    modifyShell fun s => { s with jobs := s.jobs.map (signalJob process signal w.elapsed) }
    return true
  else if w.running.contains process then
    if signal ≠ 0 then
      modifyWorld fun w => { w with signals := w.signals ++ [(process, signal)] }
    return true
  else return false

/-- The process that an argument of `kill` names. -/
def targetOf (t : Octets) : Act Nat := do
  match t with
  | '%' :: name =>
    let s ← shell
    let wanted := s.jobs.filter fun j => !j.told
    let found := if name = [] ∨ name = ['%'] ∨ name = ['+'] then wanted.head?
      else wanted.find? fun j => Decimal.ofNat j.number = name
    match found with
    | some j => return j.process
    | none => fail ("No such job: ".toList ++ t)
  | '-' :: group =>
    let _ ← numberOf group
    return 0
  | _ => numberOf t

/-- `kill -l`: the names of all signals, or of the one that an argument stands for. -/
def listSignals (arguments : List Octets) : Act Nat := do
  match arguments with
  | [] =>
    print ((List.range (Signal.last + 1)).flatMap fun n =>
      (if n = 0 then ['0'] else Signal.name n) ++ ['\n'])
    return 0
  | t :: _ =>
    let n ← numberOf t
    let n := if 128 < n then n - 128 else n
    if 0 < n ∧ n ≤ Signal.last then
      print (Signal.name n ++ ['\n'])
      return 0
    else fail ("invalid signal number or exit status: ".toList ++ t)

def kill (arguments : List Octets) : Act Nat := do
  let (signal, lists, targets) ← do
    match arguments with
    | ('-' :: name) :: rest =>
      match Signal.named? 1 name with
      | some n => pure (some n, false, rest)
      | none =>
        let (found, rest) ← options "ls:" arguments
        let signal ← found.foldlM (fun signal (c, t) => do
          if c = 'l' then return signal
          match Signal.named? 1 t with
          | some n => return some n
          | none => fail ("invalid signal number or name: ".toList ++ t)) none
        pure (signal, found.any (·.1 = 'l'), rest)
    | _ => pure (none, false, arguments)
  if lists then
    if signal.isSome then killUsage
    listSignals targets
  else
    if targets.isEmpty then killUsage
    targets.foldlM (fun status t => do
      let process ← targetOf t
      if ← send (signal.getD 15) process then return status
      complain "No such process\n".toList
      return 1) 0

/-- `trap`. -/
def setTraps (arguments : List Octets) : Act Nat := do
  let (_, rest) ← options "" arguments
  match rest with
  | [] =>
    print (← shell).trapLines
    return 0
  | first :: others => do
    let isReset := others.isEmpty || (Decimal.toNat? first).any (· ≤ Signal.last)
    let action := if isReset || first = ['-'] then none else some first
    let names := if isReset then rest else others
    let known := names.takeWhile fun n => (Signal.named? 0 n).isSome
    known.forM fun name => modifyShell fun s =>
      match Signal.named? 0 name with
      | some n =>
        { s with traps := (action.map fun a => (n, a)).toList ++ s.traps.filter (·.1 ≠ n) }
      | none => s
    match names.drop known.length with
    | [] => return 0
    | t :: _ =>
      say 2 ("trap: ".toList ++ t ++ ": bad trap\n".toList)
      return 1

/-! ## Jobs -/

/-- `jobs`: all jobs, after which those that have ended are forgotten. -/
def showJobs (arguments : List Octets) : Act Nat := do
  let _ ← options "lp" arguments
  let now := (← world).elapsed
  let shown := (← shell).jobs.filter fun j => !j.told
  print (shown.zipIdx.flatMap fun (j, place) => State.jobLine now place j)
  modifyShell fun s => { s with
    jobs := s.jobs.map fun j => { j with told := j.told || j.ended ≤ now } }
  return 0

/-- The smallest number that no job has which is still to be told of. -/
def freeJobNumber (jobs : List Job) : Nat :=
  let taken := (jobs.filter fun j => !j.told).map (·.number)
  ((List.range' 1 (taken.length + 1)).find? fun n => !taken.contains n).getD 1

end ProgramTrace.Host.Shell.Act
