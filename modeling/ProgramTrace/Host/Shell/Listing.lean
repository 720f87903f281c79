import ProgramTrace.Host.Shell.Act

/-!
# `ProgramTrace.Host.Shell.Listing` — how a shell shows what it keeps.

Values are shown in quotes, so that what is shown can be read as commands again.
-/

namespace ProgramTrace.Host.Shell

/-- Whether a character is a single quote. -/
def isSingleQuote (c : Char) : Bool := c == '\''

/-- A text in quotes: single ones around everything but single quotes, and double ones around those. -/
def quoted (t : Octets) : Octets :=
  go (t.length + 1) t
where
  /-- The quoted form of a text, of which at most a number of runs are taken. -/
  go : Nat → Octets → Octets
    | 0, _ => []
    | fuel + 1, t =>
      let run := t.takeWhile fun c => !isSingleQuote c
      let rest := t.drop run.length
      let quotes := rest.takeWhile isSingleQuote
      let left := rest.drop quotes.length
      '\'' :: run ++ ['\''] ++ (if quotes = [] then [] else '"' :: quotes ++ ['"']) ++
        (if left = [] then [] else go fuel left)

namespace State

/-- The lines that show the variables of a kind, in the order of their names; those without a value are
shown if `withUnset` is set. -/
def variableLines (s : State) (before : Octets) (withUnset : Bool) (isShown : Variable → Bool) : Octets :=
  let all := s.bindings.filter fun (_, v) => isShown v && (withUnset || v.value.isSome)
  let sorted := all.mergeSort fun a b => Octets.notAfter a.1 b.1
  sorted.flatMap fun (name, v) =>
    before ++ name ++ (match v.value with
      | some t => '=' :: quoted t
      | none => []) ++ ['\n']

/-- The line that shows an alias. -/
def aliasLine (name value : Octets) : Octets := name ++ '=' :: quoted value ++ ['\n']

/-- The lines that show what is done about signals. -/
def trapLines (s : State) : Octets :=
  (List.range (Signal.last + 1)).flatMap fun n =>
    match s.traps.lookup n with
    | some action => "trap -- ".toList ++ quoted action ++ ' ' :: Signal.name n ++ ['\n']
    | none => []

/-- The line that shows a job, where its place among the latest ones is given. -/
def jobLine (now place : Nat) (j : Job) : Octets :=
  let number := '[' :: Decimal.ofNat j.number ++ [']', ' ']
  let sign := if place = 0 then '+' else if place = 1 then '-' else ' '
  let state :=
    if now < j.ended then "Running".toList
    else match j.ending with
      | .exited 0 => "Done".toList
      | .exited n => "Done(".toList ++ Decimal.ofNat n ++ [')']
      | .signalled n => Signal.title n
  let line := number ++ [sign, ' '] ++ state
  line ++ List.replicate (max (33 - line.length) 1) ' ' ++ ['\n']

end State

/-! ## The shell's options -/

/-- The options by name, each with its letter if it has one. -/
def optionNames : List (String × Option Char) :=
  [("errexit", some 'e'), ("noglob", some 'f'), ("ignoreeof", some 'I'), ("interactive", some 'i'),
    ("monitor", some 'm'), ("noexec", some 'n'), ("stdin", some 's'), ("xtrace", some 'x'),
    ("verbose", some 'v'), ("vi", some 'V'), ("emacs", some 'E'), ("noclobber", some 'C'),
    ("allexport", some 'a'), ("notify", some 'b'), ("nounset", some 'u'), ("privileged", some 'p'),
    ("nolog", none), ("debug", none)]

namespace Act

/-- Sets or unsets an option by its letter. -/
def setOption (on : Bool) (letter : Char) : Act Unit := do
  if !State.optionOrder.contains letter then fail ("Illegal option -".toList ++ [letter])
  modifyShell fun s =>
    let others := s.options.filter (· ≠ letter)
    { s with options := if on then letter :: others else others }

/-- Sets or unsets an option by its name; without one, the options are shown. -/
def setOptionNamed (on : Bool) (name? : Option Octets) : Act Unit := do
  let s ← shell
  match name? with
  | some name =>
    match optionNames.find? (·.1.toList = name) with
    | some (_, some letter) => setOption on letter
    | some (_, none) => return
    | none => fail ("Illegal option -o ".toList ++ name)
  | none =>
    let isOn (letter : Option Char) : Bool := letter.any s.has
    if on then
      print ("Current option settings\n".toList ++ optionNames.flatMap fun (name, letter) =>
        name.toList ++ List.replicate (16 - name.length) ' ' ++
          (if isOn letter then "on" else "off").toList ++ ['\n'])
    else
      print (optionNames.flatMap fun (name, letter) =>
        (if isOn letter then "set -o " else "set +o ").toList ++ name.toList ++ ['\n'])

/-- Sets the options that arguments begin with, and gives the other arguments, and whether they are there
even if there are none.  At the start of a shell, `-c` and `-l` are letters too. -/
def setOptions (starting : Bool) : Nat → List Octets → Act (Bool × Bool × List Octets)
  | 0, arguments => return (false, false, arguments)
  | fuel + 1, arguments =>
    match arguments with
    | ['-'] :: rest => do
      if !starting then modifyShell fun s => { s with options := s.options.filter (! ['x', 'v'].contains ·) }
      return (false, false, rest)
    | ['-', '-'] :: rest => return (false, true, rest)
    | (sign :: letters) :: rest => do
      if sign ≠ '-' ∧ sign ≠ '+' then return (false, false, arguments)
      let on := sign == '-'
      let (script, rest) ← letters.foldlM (fun (script, rest) c => do
        if starting && c == 'c' then return (true, rest)
        else if starting && c == 'l' then return (script, rest)
        else if c == 'o' then
          setOptionNamed on rest.head?
          return (script, rest.tail)
        else
          setOption on c
          return (script, rest)) (false, rest)
      let (more, replaced, rest) ← setOptions starting fuel rest
      return (script || more, replaced, rest)
    | _ => return (false, false, arguments)

end Act

end ProgramTrace.Host.Shell
