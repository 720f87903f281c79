import ProgramTrace.Host.Shell.State

/-!
# `ProgramTrace.Host.Shell.Act` — how a shell goes on, and what it says.

A step of a shell (`Act`) changes the shell and the world around it, and may end the shell.  What ends it
is a `Stop`; an error ends it too, but not where the command is one that the shell survives.
-/

namespace ProgramTrace.Host.Shell

/-! ## Steps of a shell -/

/-- What ends a shell. -/
inductive Stop where
  | leave (status : Nat)
  /-- An error, about which something has been said; the shell's status is that of the error. -/
  | error
  | die (signal : Nat)
  /-- Another program has taken the place of the shell. -/
  | replaced (e : Ending)
  deriving DecidableEq, Repr

/-- A shell in its world. -/
structure Process where
  world : World
  shell : State

/-- A step of a shell. -/
abbrev Act := ExceptT Stop (StateM Process)

namespace Act

/-- The shell. -/
def shell : Act State := return (← get).shell

/-- The world. -/
def world : Act World := return (← get).world

/-- Changes the shell. -/
def modifyShell (f : State → State) : Act Unit := modify fun p => { p with shell := f p.shell }

/-- Changes the world. -/
def modifyWorld (f : World → World) : Act Unit := modify fun p => { p with world := f p.world }

/-- Changes the world, with an outcome. -/
def withWorld (f : World → α × World) : Act α :=
  modifyGet fun p => ((f p.world).1, { p with world := (f p.world).2 })

/-- A step that goes on even if it ends the shell, and tells how it went. -/
def attempt (act : Act α) : Act (Except Stop α) := ExceptT.lift act.run

/-- A step after which something is done to the shell, however the step ends. -/
def thenAlways (act : Act α) (f : State → State) : Act α := do
  let r ← attempt act
  modifyShell f
  match r with
  | .ok a => return a
  | .error e => throw e

/-! ## Speaking -/

/-- Writes to a stream, whether or not it is taken. -/
def say (stream : Nat) (t : Octets) : Act Unit :=
  modify fun p => { p with world := p.world.say p.shell.streams stream t }

/-- Writes to standard output; if it is not taken, that is noted. -/
def print (t : Octets) : Act Unit :=
  modify fun p =>
    match p.world.put p.shell.streams 1 t.toBytes with
    | .ok w => { p with world := w }
    | .error _ => { p with shell := { p.shell with muted := p.shell.muted || t ≠ [] } }

/-- Says something about what the shell does, after the shell's name and the line. -/
def complain (t : Octets) : Act Unit := do
  let s ← shell
  let about := match s.speaking with
    | some name => name ++ ": ".toList
    | none => []
  say 2 (s.zero ++ ": ".toList ++ Decimal.ofNat s.line ++ ": ".toList ++ about ++ t ++ ['\n'])

/-- An error: something is said, and the shell ends unless it survives errors here. -/
def fail (t : Octets) : Act α := do
  complain t
  modifyShell fun s => { s with status := 2 }
  throw .error

/-- A complaint that a text begins and a fixed one ends. -/
def failAbout (t : Octets) (what : String) : Act α := fail (t ++ what.toList)

/-- The number that an argument stands for. -/
def numberOf (t : Octets) : Act Nat :=
  let isSpace (c : Char) : Bool := c == ' ' || ('\t' ≤ c && c ≤ '\r')
  let digits := ((t.dropWhile isSpace).reverse.dropWhile isSpace).reverse
  let digits := if digits.head? = some '+' then digits.tail else digits
  match Decimal.toNat? digits with
  | some n => if n < Nat.pow 2 31 then return n else fail ("Illegal number: ".toList ++ t)
  | none => fail ("Illegal number: ".toList ++ t)

/-! ## Variables -/

/-- Sets a variable, if the name can be one and it can be changed.  A new place for `getopts` makes it
begin there. -/
def assign (name value : Octets) : Act Unit := do
  if !Word.isName name then failAbout name ": bad variable name"
  if ((← shell).variableOf name).fixed then failAbout name ": is read only"
  modifyShell (·.assign name value)
  if name = "OPTIND".toList then
    let place ← if value = [] then pure 1 else numberOf value
    modifyShell fun s => { s with optionPlace := place, optionOffset := none }

/-! ## Options of commands -/

/-- Reads the options of a command: the letters in front of the arguments, each with the text that belongs
to it, and the other arguments.  In the given letters, a colon follows one that takes a text. -/
def readOptions (letters : List Char) : Nat → List Octets → Act (List (Char × Octets) × List Octets)
  | 0, arguments => return ([], arguments)
  | fuel + 1, arguments =>
    match arguments with
    | ['-', '-'] :: rest => return ([], rest)
    | ('-' :: c :: more) :: rest => do
      let after := (letters.dropWhile (· ≠ c)).tail
      if c = ':' ∨ !letters.contains c then fail ("Illegal option -".toList ++ [c])
      else if after.head? = some ':' then
        match more, rest with
        | [], [] => fail ("No arg for -".toList ++ c :: " option".toList)
        | [], t :: rest =>
          let (found, rest) ← readOptions letters fuel rest
          return ((c, t) :: found, rest)
        | t, rest =>
          let (found, rest) ← readOptions letters fuel rest
          return ((c, t) :: found, rest)
      else
        let (found, rest) ← readOptions letters fuel
          (if more = [] then rest else ('-' :: more) :: rest)
        return ((c, []) :: found, rest)
    | _ => return ([], arguments)

/-- Reads the options of a command. -/
def options (letters : String) (arguments : List Octets) :
    Act (List (Char × Octets) × List Octets) :=
  readOptions letters.toList (arguments.flatten.length + arguments.length + 1) arguments

/-! ## Signals -/

/-- A signal reaches the process that carries out the commands. -/
def receive (signal : Nat) : Act Unit := do
  let s ← shell
  if !Signal.isCatchable signal then
    if Signal.isFatal signal then throw (.die signal)
  else if s.ignored.contains signal then return
  else
    match s.traps.lookup signal with
    | some [] => return
    | some _ => modifyShell fun s => { s with caught := s.caught.filter (· ≠ signal) ++ [signal] }
    | none => if Signal.isFatal signal then throw (.die signal)

/-- Signals that others have sent reach the process. -/
def collect : Act Unit := do
  let own := (← shell).own
  let mine := (← world).signals.filter (·.1 = own)
  if !mine.isEmpty then
    modifyWorld fun w => { w with signals := w.signals.filter (·.1 ≠ own) }
    mine.forM fun s => receive s.2

/-- The status that a process leaves; what a signal did to it is said. -/
def statusOf : Ending → Act Nat
  | .exited n => return n
  | .signalled n => do
    match Signal.report? n with
    | some t => say 2 (t ++ ['\n'])
    | none => pure ()
    return 128 + n

end Act

end ProgramTrace.Host.Shell
