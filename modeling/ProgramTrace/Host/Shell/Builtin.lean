import ProgramTrace.Host.Condition
import ProgramTrace.Host.Format
import ProgramTrace.Host.Image
import ProgramTrace.Host.Shell.Directory
import ProgramTrace.Host.Shell.Input
import ProgramTrace.Host.Shell.Job
import ProgramTrace.Host.Shell.Source

/-!
# `ProgramTrace.Host.Shell.Builtin` — the commands that a shell carries out itself.

Those that read no script and start no program are here, as functions from their arguments to a status.
-/

namespace ProgramTrace.Host.Shell.Act

/-! ## The way through a script -/

def exit (arguments : List Octets) : Act Nat := do
  let s ← shell
  match arguments with
  | [] => throw (.leave (s.interrupted.getD s.status))
  | t :: _ => throw (.leave (← numberOf t))

/-- `return`. -/
def leaveFunction (arguments : List Octets) : Act Nat := do
  let status ← match arguments with
    | [] => (·.status) <$> shell
    | t :: _ => numberOf t
  modifyShell fun s => { s with skip := .function }
  return status

/-- `break` and `continue`. -/
def leaveRounds (again : Bool) (arguments : List Octets) : Act Nat := do
  let n ← match arguments with
    | [] => pure 1
    | t :: _ =>
      let n ← numberOf t
      if n = 0 then fail ("Illegal number: ".toList ++ t)
      pure n
  modifyShell fun s =>
    let levels := min n s.loops
    if levels = 0 then s else { s with skip := .rounds levels again }
  return 0

/-! ## Parameters -/

/-- The name and the value of an argument with `=`. -/
def splitAssignment (t : Octets) : Octets × Option Octets :=
  let name := t.takeWhile (· ≠ '=')
  (name, if name.length < t.length then some (t.drop (name.length + 1)) else none)

def shift (arguments : List Octets) : Act Nat := do
  let n ← match arguments with
    | [] => pure 1
    | t :: _ => numberOf t
  if (← shell).positional.length < n then fail "can't shift that many".toList
  modifyShell fun s => { s with
    positional := s.positional.drop n, optionPlace := 1, optionOffset := none }
  return 0

def set (arguments : List Octets) : Act Nat := do
  if arguments.isEmpty then
    print ((← shell).variableLines [] false fun _ => true)
  else
    let (_, replaces, rest) ← setOptions false (arguments.length + 1) arguments
    if replaces || !rest.isEmpty then
      modifyShell fun s => { s with positional := rest, optionPlace := 1, optionOffset := none }
  return 0

/-- Marks variables in a way, after setting those that are given a value; without arguments, those that
are marked so are shown. -/
def mark (name : String) (isMarked : Variable → Bool) (change : Variable → Variable)
    (arguments : List Octets) : Act Nat := do
  let (found, rest) ← options "p" arguments
  if found.isEmpty && !rest.isEmpty then
    rest.forM fun t => do
      let (about, value) := splitAssignment t
      if !Word.isName about then failAbout about ": bad about name"
      match value with
      | some v => assign about v
      | none => pure ()
      modifyShell fun s => s.put about (change (s.variableOf about))
  else
    print ((← shell).variableLines (name.toList ++ [' ']) true isMarked)
  return 0

/-- `export`. -/
def exports : List Octets → Act Nat := mark "export" (·.exported) fun v => { v with exported := true }

/-- `readonly`. -/
def fixes : List Octets → Act Nat := mark "readonly" (·.fixed) fun v => { v with fixed := true }

/-- `local`. -/
def makeLocal (arguments : List Octets) : Act Nat := do
  if (← shell).calls = 0 then fail "not in a function".toList
  arguments.forM fun t => do
    if t = ['-'] then
      modifyShell fun s =>
        match s.locals with
        | (kept, options) :: outer =>
          { s with locals := (kept, some (options.getD s.options)) :: outer }
        | [] => s
    else
      let (about, value) := splitAssignment t
      if !Word.isName about then failAbout about ": bad about name"
      modifyShell (·.keep about)
      match value with
      | some v => assign about v
      | none => pure ()
  return 0

/-- `unset`. -/
def forget (arguments : List Octets) : Act Nat := do
  let (found, rest) ← options "vf" arguments
  let functions := (found.getLast?).any (·.1 = 'f')
  rest.forM fun name => do
    if functions then
      modifyShell fun s => { s with functions := s.functions.filter (·.1 ≠ name) }
    else
      if !Word.isName name then failAbout name ": bad variable name"
      if ((← shell).variableOf name).fixed then failAbout name ": is read only"
      modifyShell (·.forget name)
  return 0

/-! ## Names -/

/-- `alias`. -/
def setAliases (arguments : List Octets) : Act Nat := do
  if arguments.isEmpty then
    print ((← shell).aliases.flatMap fun a => State.aliasLine a.1 a.2)
    return 0
  arguments.foldlM (fun status t => do
    let (name, value) := match t with
      | '=' :: rest =>
        let (name, value) := splitAssignment rest
        ('=' :: name, value)
      | _ => splitAssignment t
    match value with
    | some v =>
      modifyShell fun s => { s with
        aliases := s.aliases.filter (·.1 ≠ name) ++ [(name, v)] }
      return status
    | none =>
      match (← shell).aliases.lookup name with
      | some v =>
        print (State.aliasLine name v)
        return status
      | none =>
        say 2 ("alias: ".toList ++ name ++ " not found\n".toList)
        return 1) 0

/-- `unalias`. -/
def forgetAliases (arguments : List Octets) : Act Nat := do
  let (found, rest) ← options "a" arguments
  if !found.isEmpty then
    modifyShell fun s => { s with aliases := [] }
    return 0
  rest.foldlM (fun status name => do
    if (← shell).aliases.any (·.1 = name) then
      modifyShell fun s => { s with aliases := s.aliases.filter (·.1 ≠ name) }
      return status
    say 2 ("unalias: ".toList ++ name ++ " not found\n".toList)
    return 1) 0

/-- The path of a command in the directories of a search path. -/
def findCommand (setting name : Octets) : Act (Except Files.Fault Octets) := do
  let w ← world
  if name.contains '/' then return (w.find name).map fun _ => name
  else return commandPath w .notFound (searchPaths setting name)

/-! ## Settings of the process -/

/-- The letters of permissions that three bits stand for. -/
def permissionLetters (bits : Nat) : Octets :=
  (if bits.testBit 2 then ['r'] else []) ++ (if bits.testBit 1 then ['w'] else []) ++
    (if bits.testBit 0 then ['x'] else [])

/-- Permissions after a change that is written in symbols: whose they are, an operator, and letters.
Nothing if it is not understood. -/
def changedPermissions? (permissions : Nat) (t : Octets) : Option Nat :=
  let clause (permissions : Nat) (t : Octets) : Option Nat :=
    let whose := t.takeWhile "ugoa".toList.contains
    let shifts := if whose = [] ∨ whose.contains 'a' then [6, 3, 0]
      else (whose.map fun c => if c = 'u' then 6 else if c = 'g' then 3 else 0)
    match t.drop whose.length with
    | operator :: letters =>
      if !"+-=".toList.contains operator || !letters.all "rwxXst".toList.contains then none
      else
        let bits := (if letters.contains 'r' then 4 else 0) + (if letters.contains 'w' then 2 else 0) +
          (if letters.contains 'x' then 1 else 0)
        let own := shifts.foldl (fun n s => n ||| (bits <<< s)) 0
        let all := shifts.foldl (fun n s => n ||| (7 <<< s)) 0
        if operator = '+' then some (permissions ||| own)
        else if operator = '-' then some (permissions &&& (0o777 ^^^ own))
        else some ((permissions &&& (0o777 ^^^ all)) ||| own)
    | [] => none
  (Text.parts ',' t).foldlM clause permissions

/-- `umask`. -/
def mask (arguments : List Octets) : Act Nat := do
  let (found, rest) ← options "S" arguments
  let mask := (← shell).mask
  match rest with
  | [] =>
    let allowed := 0o777 - mask
    if found.isEmpty then
      let digits := Nat.toDigits 8 mask
      print (List.replicate (4 - digits.length) '0' ++ digits ++ ['\n'])
    else
      print ("u=".toList ++ permissionLetters (allowed >>> 6) ++ ",g=".toList ++
        permissionLetters (allowed >>> 3) ++ ",o=".toList ++ permissionLetters allowed ++ ['\n'])
  | t :: _ =>
    if t.head?.any Char.isDigit then
      if !t.all fun c => '0' ≤ c && c ≤ '7' then fail ("Illegal number: ".toList ++ t)
      let n := t.foldl (fun n c => n * 8 + (c.toNat - '0'.toNat)) 0
      modifyShell fun s => { s with mask := n % 0o1000 }
    else
      match changedPermissions? (0o777 - mask) t with
      | some n => modifyShell fun s => { s with mask := 0o777 - n % 0o1000 }
      | none => fail ("Illegal mode: ".toList ++ t)
  return 0

/-- `ulimit`: nothing is limited. -/
def limit (arguments : List Octets) : Act Nat := do
  let (_, rest) ← options "HSatfdscmlpnvwr" arguments
  if rest.isEmpty then print "unlimited\n".toList
  return 0

/-- `times`: no time is taken by the process itself. -/
def times : List Octets → Act Nat := fun _ => do
  print "0m0.000000s 0m0.000000s\n0m0.000000s 0m0.000000s\n".toList
  return 0

/-- `hash`: whether commands are found. -/
def hash (arguments : List Octets) : Act Nat := do
  let (_, rest) ← options "r" arguments
  rest.foldlM (fun status name => do
    match ← findCommand (← shell).searchPath name with
    | .ok _ => return status
    | .error _ =>
      complain (name ++ ": not found".toList)
      return 1) 0

/-! ## Printing and deciding -/

def echo (arguments : List Octets) : Act Nat := do
  print (Escape.echo arguments)
  return 0

def printf (arguments : List Octets) : Act Nat := do
  let (_, rest) ← options "" arguments
  match rest with
  | [] => fail "usage: printf format [arg ...]".toList
  | form :: rest =>
    let (t, complaints, status) := Format.printf form rest
    complaints.forM complain
    print t
    return status

/-- What `test` decides. -/
def test (arguments : List Octets) : Act Nat := do
  match Condition.decide (← world) arguments with
  | .ok holds => return if holds then 0 else 1
  | .error t => fail t

/-- `[`, which is `test` with a closing bracket. -/
def bracket (arguments : List Octets) : Act Nat := do
  if arguments.getLast? = some [']'] then test arguments.dropLast
  else fail "missing ]".toList

/-! ## All of them -/

/-- The commands by name. -/
def builtins : List (String × (List Octets → Act Nat)) :=
  [(":", fun _ => return 0), ("true", fun _ => return 0), ("false", fun _ => return 1),
    ("[", bracket), ("alias", setAliases),
    ("bg", fun _ => fail "No current job".toList), ("break", leaveRounds false),
    ("cd", changeDirectory), ("chdir", changeDirectory), ("continue", leaveRounds true),
    ("echo", echo), ("exit", exit), ("export", exports),
    ("fg", fun _ => fail "No current job".toList), ("getopts", nextOption), ("hash", hash),
    ("jobs", showJobs), ("kill", kill), ("local", makeLocal), ("printf", printf),
    ("pwd", printDirectory), ("read", read), ("readonly", fixes), ("return", leaveFunction),
    ("set", set), ("shift", shift), ("test", test), ("times", times), ("trap", setTraps),
    ("ulimit", limit), ("umask", mask), ("unalias", forgetAliases), ("unset", forget)]

/-- The command that the shell carries out itself under a name. -/
def builtin? (name : Octets) : Option (List Octets → Act Nat) :=
  (builtins.find? (·.1.toList = name)).map (·.2)

/-- The names of the commands that the shell carries out itself and that are carried out apart, since they
look at other commands or start some. -/
def startingNames : List Octets := [".", "command", "eval", "exec", "type", "wait"].map String.toList

/-- Whether the shell carries out a command under a name itself. -/
def isBuiltin (name : Octets) : Bool := startingNames.contains name || (builtin? name).isSome

/-! ## What names stand for -/

/-- What a name stands for as a command, shortly as `command -v` shows it or as a sentence. -/
def describe (sentence : Bool) (setting name : Octets) : Act Nat := do
  let s ← shell
  let line (short : Octets) (what : String) : Act Nat := do
    print (if sentence then name ++ what.toList ++ ['\n'] else short ++ ['\n'])
    return 0
  if keywords.contains name then line name " is a shell keyword"
  else
    match s.aliases.lookup name with
    | some value =>
      if sentence then print (name ++ " is an alias for ".toList ++ value ++ ['\n'])
      else print ("alias ".toList ++ State.aliasLine name value)
      return 0
    | none =>
      if specialNames.contains name then line name " is a special shell builtin"
      else if s.functions.any (·.1 = name) then line name " is a shell function"
      else if isBuiltin name then line name " is a shell builtin"
      else
        match ← findCommand setting name with
        | .ok path =>
          print (if sentence then name ++ " is ".toList ++ path ++ ['\n'] else path ++ ['\n'])
          return 0
        | .error _ =>
          if sentence then print (name ++ ": not found\n".toList)
          return 127

def type (arguments : List Octets) : Act Nat := do
  let setting := (← shell).searchPath
  arguments.foldlM (fun status name => do
    return status ||| (← describe true setting name)) 0

end ProgramTrace.Host.Shell.Act
