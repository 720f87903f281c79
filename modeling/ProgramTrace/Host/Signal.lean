import ProgramTrace.Log.Event

/-!
# `ProgramTrace.Host.Signal` — signals by name, and what they do to a process.
-/

namespace ProgramTrace.Host.Signal

def last : Nat := 64

/-- The first of the signals that have no fixed meaning. -/
def firstFree : Nat := 34

/-- The name of a signal, without `SIG`; some have only a number. -/
def name (n : Nat) : Text :=
  if n = 0 then "EXIT".toList
  else if n = 16 then "16".toList
  else if n < 32 then ((Ending.signalNames[n - 1]?).getD "").toList.drop 3
  else if n < firstFree then Decimal.ofNat n
  else if n = firstFree then "RTMIN".toList
  else if n ≤ 49 then "RTMIN+".toList ++ Decimal.ofNat (n - firstFree)
  else if n < last then "RTMAX-".toList ++ Decimal.ofNat (last - n)
  else "RTMAX".toList

/-- The signal that a word names by its number or its name, from a signal on. -/
def named? (first : Nat) (t : Text) : Option Nat :=
  match Decimal.toNat? t with
  | some n => if n ≤ last then some n else none
  | none =>
    let wanted := t.map Char.toUpper
    ((List.range (last + 1)).drop first).find? fun n => name n = wanted

/-- The signals that end no process by themselves: they are for its children and its terminal, or stop
it and let it go on. -/
def harmless : List Nat := [17, 18, 19, 20, 21, 22, 23, 28]

/-- Whether a signal that nothing is done about ends a process. -/
def isFatal (n : Nat) : Bool := 0 < n && n ≤ last && !harmless.contains n

def isCatchable (n : Nat) : Bool := n ≠ 9 && n ≠ 19

def titles : List (Nat × String) :=
  [(1, "Hangup"), (2, "Interrupt"), (3, "Quit"), (4, "Illegal instruction"),
    (5, "Trace/breakpoint trap"), (6, "Aborted"), (7, "Bus error"), (8, "Floating point exception"),
    (9, "Killed"), (10, "User defined signal 1"), (11, "Segmentation fault"),
    (12, "User defined signal 2"), (13, "Broken pipe"), (14, "Alarm clock"), (15, "Terminated"),
    (16, "Stack fault"), (24, "CPU time limit exceeded"), (25, "File size limit exceeded"),
    (26, "Virtual timer expired"), (27, "Profiling timer expired"), (29, "I/O possible"),
    (30, "Power failure"), (31, "Bad system call")]

def title (n : Nat) : Text :=
  match titles.lookup n with
  | some t => t.toList
  | none =>
    if firstFree ≤ n ∧ n ≤ last then "Real-time signal ".toList ++ Decimal.ofNat (n - firstFree)
    else "Unknown signal ".toList ++ Decimal.ofNat n

/-- What is said when a signal has ended a process; nothing if it was interrupted or nobody read its
output. -/
def report? (n : Nat) : Option Text := if n = 2 ∨ n = 13 then none else some (title n)

end ProgramTrace.Host.Signal
