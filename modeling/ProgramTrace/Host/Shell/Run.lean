import ProgramTrace.Host.Shell.Builtin
import ProgramTrace.Host.Shell.Expansion
import ProgramTrace.Host.Shell.Reader
import ProgramTrace.Host.Utility
import ProgramTrace.Tool

/-!
# `ProgramTrace.Host.Shell.Run` — starting programs, and the shell that runs scripts.

Starting a program and carrying out a command call each other, so both are written here.  Each call takes
one step from a budget; a program that uses up the budget is ended by a signal.  A command that is
carried out apart, as in a pipeline, runs in a copy of the shell (`inCopy`), of which only its ending and
its world come back.
-/

namespace ProgramTrace.Host

open Files (Fault Node)

/-! ## Names and bounds -/

/-- The shell's name. -/
def shellName : Octets := "sh".toList

/-- The path under which a file without a first line is given to the shell. -/
def shellPath : Octets := "/bin/sh".toList

/-- The name of the program that starts another one. -/
def launcherName : Octets := "env".toList

/-- The signal that ends a program that uses up its budget. -/
def budgetSignal : Nat := 24

/-- How long it takes to start a program, in nanoseconds. -/
def startTime : Nat := 1000000

/-- A command that is not waited for and takes no longer than this is carried out at once. -/
def promptTime : Nat := 20000000

/-- How many functions may call each other. -/
def callLimit : Nat := 1000

namespace Shell

open Act

/-! ## The start of a shell -/

/-- The variables that a shell sets itself when it starts. -/
def ownVariables (w : World) (i : Inheritance) : List (Octets × Variable) :=
  let plain (name value : String) : Octets × Variable :=
    (name.toList, ⟨some value.toList, false, false⟩)
  [plain "IFS" " \t\n", plain "OPTIND" "1", plain "PS1" "# ", plain "PS2" "> ", plain "PS4" "+ ",
    ("PPID".toList, ⟨some (Decimal.ofNat i.parent), false, false⟩),
    ("PWD".toList, ⟨some (w.pathOf w.files.here), true, false⟩)]

/-- A shell that has just been started. -/
def State.initial (w : World) (i : Inheritance) (process : Nat) (zero : Octets) : State :=
  let own := ownVariables w i
  let given := (i.environment.filter fun v => Word.isName v.1 && (own.lookup v.1).isNone).map
    fun v => (v.1, ⟨some v.2, true, false⟩)
  let path : Octets × Variable := ("PATH".toList,
    ⟨some "/usr/local/sbin:/usr/local/bin:/usr/sbin:/usr/bin:/sbin:/bin".toList, false, false⟩)
  { bindings := own ++ given ++ if (given.lookup path.1).isNone then [path] else []
    functions := [], aliases := [], documents := [], nextDocument := 0
    zero, positional := [], status := 0, substituted := 0, process, own := process, above := i.parent
    options := [], traps := [], ignored := i.ignored, caught := [], interrupted := none
    latestJob := none, line := 0, speaking := none, muted := false, skip := .nothing
    loops := 0, calls := 0, locals := [], optionPlace := 1, optionOffset := none
    streams := i.streams, mask := i.mask, jobs := [] }

/-- What a copy of a shell begins with, as a process: its actions about signals are gone, but those that are
passed over stay so. -/
def Setting.copy (s : Setting) (process : Nat) : State :=
  { s with
    own := process, above := s.own, caught := [], interrupted := none
    traps := s.traps.filter fun t => t.2 = [] && t.1 ≠ 0
    jobs := [] }

/-! ## Manners -/

/-- How a command is carried out: whether its status is looked at, so that a failure does not end the
shell, and whether nothing comes after it, so that a program can take the place of the shell. -/
structure Manner where
  tested : Bool
  last : Bool

/-- The manner of a command after which others come. -/
def Manner.before (m : Manner) : Manner := { m with last := false }

/-- The manner of a condition. -/
def Manner.condition : Manner := ⟨true, false⟩

/-- How a loop goes on after a part of it. -/
inductive Course where
  | on
  | again
  | out
  | outOfFunction
  deriving DecidableEq, Repr

/-- How a loop goes on. -/
def course : Act Course := do
  match (← shell).skip with
  | .nothing => return .on
  | .function => return .outOfFunction
  | .rounds n again =>
    if n ≤ 1 then
      modifyShell fun s => { s with skip := .nothing }
      return if again then .again else .out
    else
      modifyShell fun s => { s with skip := .rounds (n - 1) again }
      return .out

/-- Whether what is left is passed over. -/
def isSkipping : Act Bool := return (← shell).skip ≠ .nothing

/-- The status of a command is kept; with `checked`, a failure that nobody looks at can end the shell. -/
def settle (m : Manner) (checked : Bool) (status : Nat) : Act Unit := do
  modifyShell fun s => { s with status }
  if checked && !m.tested && status ≠ 0 && (← shell).has 'e' then throw (.leave status)

/-! ## Streams -/

/-- What is said about a fault when a file is opened or a command looked for; a missing file has a text of
its own. -/
def faultText (missing : String) (f : Fault) : Octets :=
  if f = .notFound ∨ f = .notDirectory then missing.toList else f.name

/-- A stream becomes another one, or is closed. -/
def copyStream (stream : Nat) (source : Octets) : Act Unit := do
  let s ← shell
  if source = ['-'] then
    modifyShell fun s => { s with streams := s.streams.filter (·.1 ≠ stream) }
  else
    match (Decimal.toNat? source).bind fun n => s.streams.lookup n with
    | some opening => modifyShell fun s => { s with streams := s.streams.set stream opening }
    | none => fail (source ++ ": Bad file descriptor".toList)

/-- Opens a file for a stream.  Under the path of a standard stream a process finds its own. -/
def openStream (stream : Nat) (path : Octets) (access : World.Access) : Act Unit := do
  match (← world).files.device? path.toText with
  | some .stdout => copyStream stream ['1']
  | some .stderr => copyStream stream ['2']
  | _ =>
    match (← world).openPath path access with
    | .ok (opening, w) =>
      modify fun p => ⟨w, { p.shell with streams := p.shell.streams.set stream opening }⟩
    | .error f =>
      if access = .read then
        fail ("cannot open ".toList ++ path ++ ": ".toList ++ faultText "No such file" f)
      else fail ("cannot create ".toList ++ path ++ ": ".toList ++ faultText "Directory nonexistent" f)

/-- Carries out a redirection whose word has been expanded; how the output of a script is found is
given. -/
def redirect (output : Nat → Octets → Act Octets) (r : Redirection) (target : Octets) : Act Unit := do
  match r.kind with
  | .read => openStream r.stream target .read
  | .write => do
    if (← shell).has 'C' && ((← world).nodeOf? target).any Node.isRegular then
      fail ("cannot create ".toList ++ target ++ ": File exists".toList)
    openStream r.stream target .write
  | .overwrite => openStream r.stream target .write
  | .append => openStream r.stream target .append
  | .update => openStream r.stream target .update
  | .copy => copyStream r.stream target
  | .document n =>
    let word := ((← shell).documents.lookup n).getD []
    let t := Item.text (← wordItems output false false word)
    let (reading, _, w) := (← world).addPipe t.toBytes
    modify fun p => ⟨w, { p.shell with streams := p.shell.streams.set r.stream reading }⟩

/-- The words of redirections, expanded. -/
def targets (output : Nat → Octets → Act Octets) (rs : List Redirection) :
    Act (List (Redirection × Octets)) :=
  rs.mapM fun r => do
    match r.kind with
    | .document _ => return (r, [])
    | .copy =>
      let t ← textOf output r.target
      match t with
      | [c] => if c.isDigit ∨ c = '-' then return (r, t) else fail "Syntax error: Bad fd number".toList
      | _ => fail "Syntax error: Bad fd number".toList
    | _ => return (r, ← textOf output r.target)

/-- Carries out redirections: whether all of them succeed.  If not, the streams are as before. -/
def redirectAll (output : Nat → Octets → Act Octets) (rs : List (Redirection × Octets)) : Act Bool := do
  let streams := (← shell).streams
  match ← attempt (rs.forM fun (r, t) => redirect output r t) with
  | .ok () => return true
  | .error .error =>
    modifyShell fun s => { s with streams }
    return false
  | .error e => throw e

/-! ## Commands -/

/-- What is left of the words of a command after `command` and its options, and whether there was one.
Nothing if `command` itself is to be carried out. -/
def unwrapped : Nat → List Octets → Option (Bool × List Octets)
  | 0, words => some (false, words)
  | fuel + 1, words =>
    if words.head? ≠ some "command".toList then some (false, words)
    else
      let rec strip : List Octets → Option (List Octets)
        | ['-', '-'] :: rest => some rest
        | ('-' :: c :: more) :: rest => if (c :: more).all (· = 'p') then strip rest else none
        | rest => some rest
      match strip words.tail with
      | some (w :: rest) => (unwrapped fuel (w :: rest)).map fun r => (true, r.2)
      | _ => none

/-- Whether arguments may be assignments, which then are one text each. -/
def takesAssignments (fields : List Octets) : Bool :=
  match fields.dropWhile (· = "command".toList) with
  | name :: _ => ["export", "readonly", "local"].any (·.toList = name)
  | [] => false

/-- The fields of the words of a command. -/
def fieldsOf (output : Nat → Octets → Act Octets) (words : List Word) : Act (List Octets) :=
  words.foldlM (fun fields w => do
    match (if takesAssignments fields then w.assignment? else none) with
    | some (name, value) =>
      let t := Item.text (← items output false true value)
      return fields ++ [name ++ '=' :: t]
    | none => return fields ++ (← arguments output w)) []

/-- Shows a command before it is carried out, on given streams. -/
def trace (io : Streams) (texts : List Octets) : Act Unit := do
  let s ← shell
  if s.has 'x' then
    let t := (s.valueOf? "PS4".toList).getD [] ++ [' '].intercalate texts ++ ['\n']
    modifyWorld fun w => w.say io 2 t

/-- Carries out a command of the shell itself under its name. -/
def speakingAs (name : Octets) (act : Act Nat) : Act Nat := do
  let before := (← shell).speaking
  modifyShell fun s => { s with speaking := some name, muted := false }
  thenAlways (do
    let status ← act
    let status ←
      if (← shell).muted then
        complain (name ++ ": I/O error".toList)
        pure (status ||| 1)
      else pure status
    modifyShell fun s => { s with status }
    return status) fun s => { s with speaking := before, muted := false }

/-- `command` where it is not followed by a command: it describes one, or does nothing. -/
def describeCommand (arguments : List Octets) : Act Nat := do
  let (found, rest) ← options "pvV" arguments
  match rest with
  | name :: _ =>
    if found.any fun o => o.1 = 'v' || o.1 = 'V' then
      describe (found.any (·.1 = 'V')) (← shell).searchPath name
    else return 0
  | [] => return 0

mutual

/-- Runs a program of the system as a process. -/
def startProgram : Nat → World → Inheritance → Nat → Image → World × Ending
  | 0, w, _, _, _ => (w, .signalled budgetSignal)
  | fuel + 1, w, i, process, image =>
    let here := w.files.here
    let w := { w with running := process :: w.running }.wait startTime
    let (w, ending) :=
      if image.program = shellName then runShell fuel w i process image.zero image.arguments
      else if image.program = launcherName then runLauncher fuel w i process image.arguments
      else if image.program = CommandLine.toolName then runTool fuel w i image.arguments
      else match Utility.named? image.program with
        | some act =>
          let (w, status) := act w i.streams image.arguments
          (w, .exited status)
        | none => (w, .exited 127)
    ({ w with files := { w.files with here } }.endProcess process, ending)

/-- What comes of a call in a world of its own. -/
def answer : Nat → Instant → List (Octets × Octets) → Bool → Call → Except Fault Completion
  | 0, _, _, _, c => .ok ⟨.signalled budgetSignal, ⟨0, 0⟩, c.files, [], []⟩
  | fuel + 1, clock, environment, lingers, c => do
    let w := { World.initial c.files lingers with clock }
    let image ← imageOf w environment (Octets.ofText c.path) (c.arguments.map Octets.ofText)
    let (process, w) := w.addProcess
    let (w, ending) := startProgram fuel w (.first environment) process image
    .ok ⟨ending, Duration.ofNanos w.elapsed, { w.files with here := c.files.here }, w.stdout, w.stderr⟩

/-- The tool as a program.  What it starts has no input, and writes through it. -/
def runTool : Nat → World → Inheritance → List Octets → World × Ending
  | 0, w, _, _ => (w, .signalled budgetSignal)
  | fuel + 1, w, i, arguments =>
    let clock := w.clock.after (Duration.ofNanos w.elapsed)
    let machine : Machine :=
      { clock, start := answer fuel clock i.environment w.lingers
        stdout := w.streamOf i.streams 1, stderr := w.streamOf i.streams 2 }
    let environment := i.environment.map fun v => (Octets.toText v.1, Octets.toText v.2)
    let report := Tool.execute machine environment w.files (arguments.map Octets.toBytes)
    let w := { w with files := report.files }
    let w := w.say i.streams 1 (Octets.ofBytes report.stdout)
    (w.say i.streams 2 (Octets.ofBytes report.stderr), .exited report.status)

/-- The program that starts another one in an environment with more variables. -/
def runLauncher : Nat → World → Inheritance → Nat → List Octets → World × Ending
  | 0, w, _, _, _ => (w, .signalled budgetSignal)
  | fuel + 1, w, i, process, arguments =>
    let clears := arguments.head? = some ['-', 'i']
    let arguments := if clears then arguments.tail else arguments
    let settings := arguments.takeWhile (·.contains '=')
    let environment := settings.foldl (fun e a =>
      let (name, value) := splitAssignment a
      (name, value.getD []) :: e.filter (·.1 ≠ name)) (if clears then [] else i.environment)
    let i := { i with environment }
    match arguments.drop settings.length with
    | [] =>
      (environment.foldl (fun w v => w.say i.streams 1 (v.1 ++ '=' :: v.2 ++ ['\n'])) w, .exited 0)
    | name :: arguments =>
      let refuse (f : Fault) : World × Ending :=
        (w.say i.streams 2 ("env: '".toList ++ name ++ "': ".toList ++ f.name ++ ['\n']),
          .exited (if f = .notFound then 127 else 126))
      let paths := if name.contains '/' then [name]
        else searchPaths ((environment.lookup "PATH".toList).getD []) name
      match commandPath w .notFound paths with
      | .error f => refuse f
      | .ok path =>
        match Image.load w environment path name arguments with
        | .ok image => startProgram fuel w i process image
        | .error .formatUnknown =>
          match Image.load w environment shellPath shellPath (path :: arguments) with
          | .ok image => startProgram fuel w i process image
          | .error f => refuse f
        | .error f => refuse f

/-- The shell as a program. -/
def runShell : Nat → World → Inheritance → Nat → Octets → List Octets → World × Ending
  | 0, w, _, _, _, _ => (w, .signalled budgetSignal)
  | fuel + 1, w, i, process, zero, arguments =>
    let act : Act Nat := do
      let (hasScript, _, rest) ← setOptions true (arguments.length + 1) arguments
      if (← shell).has 'i' then complain "can't access tty; job control turned off".toList
      let begin' (zero : Octets) (positional : List Octets) : Act Unit :=
        modifyShell fun s => { s with zero, positional }
      if hasScript then
        match rest with
        | [] => fail "-c requires an argument".toList
        | script :: more =>
          begin' (more.headD zero) more.tail
          runText fuel ⟨false, false⟩ script
      else if (← shell).has 's' || rest.isEmpty then
        setOption true 's'
        begin' zero rest
        let s ← shell
        match (← world).drain s.streams 0 with
        | .ok (bytes, w) =>
          modifyWorld fun _ => w
          runFile fuel (Octets.ofBytes bytes)
        | .error _ => return 0
      else
        let path := rest.headD []
        let script ← match (← world).read path with
          | .ok bytes => pure (Octets.ofBytes bytes)
          | .error .isDirectory => pure []
          | .error f =>
            fail ("cannot open ".toList ++ path ++ ": ".toList ++ faultText "No such file" f)
        begin' path rest.tail
        runFile fuel script
    match conclude fuel false act ⟨w, State.initial w i process zero⟩ with
    | (.ok ending, p) => (p.world, ending)
    | (.error _, p) => (p.world, .signalled budgetSignal)

/-- Carries out what a source has, line by line; with `shows`, lines can be shown before that. -/
def runSource : Nat → Manner → Bool → Source → Nat → Act Nat
  | 0, _, _, _, _ => throw (.die budgetSignal)
  | fuel + 1, m, shows, source, status => do
    let s ← shell
    match { source with aliases := s.aliases, nextDocument := s.nextDocument }.next with
    | .error e =>
      modifyShell fun s => { s with line := e.line }
      fail e.text
    | .ok (c?, rest) =>
      if shows && s.has 'v' then
        say 2 (source.rest.take (source.rest.length - rest.rest.length))
      match c? with
      | none => return status
      | some c =>
        modifyShell fun s => { s with
          documents := rest.documents ++ s.documents, nextDocument := rest.nextDocument }
        let n ← carryOut fuel m c
        let status := match c with
          | .nothing => status
          | _ => n
        if ← isSkipping then return status
        runSource fuel m shows { rest with documents := [] } status

/-- Carries out a text as a script. -/
def runText : Nat → Manner → Octets → Act Nat
  | 0, _, _ => throw (.die budgetSignal)
  | fuel + 1, m, script => do
    let s ← shell
    runSource fuel m false (Source.ofScript script 1 s.aliases s.nextDocument) 0

/-- Carries out the contents of a file as a script, which `return` leaves. -/
def runFile : Nat → Octets → Act Nat
  | 0, _ => throw (.die budgetSignal)
  | fuel + 1, script => do
    let s ← shell
    let source := Source.ofScript script 1 s.aliases s.nextDocument
    thenAlways (runSource fuel ⟨false, false⟩ true source 0) fun s =>
      { s with skip := if s.skip = .function then .nothing else s.skip }

/-- The output of a script that begins on a line. -/
def output : Nat → Nat → Octets → Act Octets
  | 0, _, _ => throw (.die budgetSignal)
  | fuel + 1, line, script => do
    let s ← shell
    match (Source.ofScript script line s.aliases s.nextDocument).whole with
    | .error e =>
      modifyShell fun s => { s with line := e.line }
      fail e.text
    | .ok (.nothing, _) => return []
    | .ok (c, rest) => do
      let (reading, writing, w) := (← world).addPipe []
      modifyWorld fun _ => w
      let ending ← inCopy fuel true do
        modifyShell fun s => { s with
          documents := rest.documents ++ s.documents, nextDocument := rest.nextDocument
          streams := s.streams.set 1 writing }
        carryOut fuel ⟨false, true⟩ c
      let status ← statusOf ending
      modifyShell fun s => { s with substituted := status }
      return Octets.ofBytes ((← world).pipeContents reading)

/-- Carries a step out in a copy of the shell: how the copy ends.  With `waits`, its own jobs come to their
end too. -/
def inCopy : Nat → Bool → Act Nat → Act Ending
  | 0, _, _ => throw (.die budgetSignal)
  | fuel + 1, waits, act => do
    let s ← shell
    let process ← withWorld World.addProcess
    let here := (← world).files.here
    modifyShell fun s => s.copy process
    let ending ← conclude fuel waits act
    modify fun p =>
      ⟨{ p.world with files := { p.world.files with here } }.endProcess process, s⟩
    return ending

/-- The end of a shell after a step: the action about it is carried out.  Jobs that go on after it come to
their end too if they are waited for. -/
def conclude : Nat → Bool → Act Nat → Act Ending
  | 0, _, _ => return .signalled budgetSignal
  | fuel + 1, waits, act => do
    let ending ← match ← attempt act with
      | .error (.die n) => pure (Ending.signalled n)
      | .error (.replaced e) => pure e
      | r =>
        let s ← shell
        let status := match r with
          | .error (.leave n) => n
          | _ => s.status
        match s.traps.lookup 0 with
        | some (c :: action) =>
          modifyShell fun s => { s with
            traps := s.traps.filter (·.1 ≠ 0), skip := .nothing, status, interrupted := some status }
          match ← attempt (runText fuel ⟨false, false⟩ (c :: action)) with
          | .error (.leave n) => pure (.exited (n % 256))
          | .error (.die n) => pure (.signalled n)
          | .error (.replaced e) => pure e
          | _ => pure (.exited (status % 256))
        | _ => pure (.exited (status % 256))
    let now := (← world).elapsed
    if waits || (← world).lingers then
      let _ ← attempt (finishJobs fuel none)
      if !waits then modifyWorld fun w => { w with elapsed := now }
    return ending

/-- Lets jobs come to their end: those that end up to an instant, or all. -/
def finishJobs : Nat → Option Nat → Act Unit
  | 0, _ => throw (.die budgetSignal)
  | fuel + 1, bound => do
    let due := (← shell).jobs.filter fun j => j.pending.isSome && bound.all (j.ended ≤ ·)
    let first? : Option Job := due.foldl (fun best j =>
      match best with
      | some b => if b.ended ≤ j.ended then some b else some j
      | none => some j) none
    match first? with
    | none => return
    | some j =>
      let s ← shell
      let now := (← world).elapsed
      let here := (← world).files.here
      match j.pending with
      | none => return
      | some (setting, c) =>
        modify fun p => ⟨{ p.world with elapsed := j.begun }, { setting with jobs := [] }⟩
        let ending ← conclude fuel true (carryOut fuel ⟨false, true⟩ c)
        let jobs := s.jobs.map fun k =>
          if k.process = j.process then { k with ending, pending := none } else k
        modify fun p =>
          ⟨{ p.world with
              elapsed := max now p.world.elapsed, files := { p.world.files with here } },
            { s with jobs }⟩
        finishJobs fuel bound

/-- Begins a job: a command that is not waited for. -/
def beginJob : Nat → Command → Act Unit
  | 0, _ => throw (.die budgetSignal)
  | fuel + 1, c => do
    let s ← shell
    let process ← withWorld World.addProcess
    let before ← world
    let begun := before.elapsed
    let (null, w) := match before.openPath "/dev/null".toList .read with
      | .ok r => r
      | .error _ => (0, before)
    let copy := s.copy process
    let copy := { copy with
      streams := copy.streams.set 0 null, ignored := 2 :: 3 :: copy.ignored }
    modify fun _ => ⟨w, copy⟩
    let ending ← conclude fuel true (carryOut fuel ⟨false, true⟩ c)
    let after := (← world).endProcess process
    let ended := after.elapsed
    let isPrompt := ended < begun + promptTime
    let job : Job := ⟨freeJobNumber s.jobs, process, begun, ended, ending,
      if isPrompt then none else some (copy.toSetting, c), false⟩
    let files := { after.files with here := before.files.here }
    modify fun _ =>
      ⟨if isPrompt then { after with files, elapsed := begun } else w,
        { s with latestJob := some process, jobs := job :: s.jobs }⟩

/-- Waits for jobs: the status of the last one that is named, or 0 for all. -/
def waitFor : Nat → List Octets → Act Nat
  | 0, _ => throw (.die budgetSignal)
  | fuel + 1, arguments => do
    let (_, rest) ← options "" arguments
    let until' (j : Job) : Act Unit := do
      modifyWorld fun w => { w with elapsed := max w.elapsed j.ended }
      finishJobs fuel (some j.ended)
    match rest with
    | [] =>
      (← shell).jobs.reverse.forM until'
      modifyShell fun s => { s with jobs := s.jobs.map fun j => { j with told := true } }
      return 0
    | targets =>
      targets.foldlM (fun _ t => do
        let process ← match t with
          | '%' :: _ => targetOf t
          | _ => numberOf t
        match (← shell).jobs.find? (·.process = process) with
        | none => return 127
        | some j =>
          until' j
          match (← shell).jobs.find? (·.process = process) with
          | some j => statusOf j.ending
          | none => return 127) 0

/-- Carries out the actions about signals that have been caught. -/
def runTraps : Nat → Act Unit
  | 0 => throw (.die budgetSignal)
  | fuel + 1 => do
    collect
    if (← shell).jobs.any (·.pending.isSome) then
      finishJobs fuel (some (← world).elapsed)
      collect
    let s ← shell
    if s.skip ≠ .nothing then return
    match s.caught with
    | [] => return
    | n :: rest =>
      modifyShell fun s => { s with caught := rest }
      match s.traps.lookup n with
      | some (c :: action) =>
        modifyShell fun t => { t with interrupted := some (s.interrupted.getD s.status) }
        let _ ← thenAlways (runText fuel ⟨false, false⟩ (c :: action)) fun t =>
          { t with interrupted := s.interrupted }
        if (← shell).skip ≠ .function then modifyShell fun t => { t with status := s.status }
      | _ => pure ()
      runTraps fuel

/-- Starts what a path leads to, in place of the shell or as a process of its own: its status. -/
def launch : Nat → Bool → Octets → Octets → List Octets → Act Nat
  | 0, _, _, _, _ => throw (.die budgetSignal)
  | fuel + 1, replaces, path, name, arguments => do
    let s ← shell
    let w ← world
    let environment := s.environment
    let image := match Image.load w environment path name arguments with
      | .error .formatUnknown => Image.load w environment shellPath shellPath (path :: arguments)
      | r => r
    match image with
    | .error f =>
      complain (name ++ ": ".toList ++ faultText "not found" f)
      let isMissing := [.notFound, .notDirectory, .tooManyLinks, .nameTooLong].contains f
      return if isMissing then 127 else 126
    | .ok image =>
      if replaces then
        let ending ← withWorld fun w =>
          (startProgram fuel w (s.inheritance s.above) s.own image).swap
        throw (.replaced ending)
      else
        let process ← withWorld World.addProcess
        let ending ← withWorld fun w =>
          (startProgram fuel w (s.inheritance s.own) process image).swap
        statusOf ending

/-- `exec`: a program takes the place of the shell. -/
def replace : Nat → List Octets → Act Nat
  | 0, _ => throw (.die budgetSignal)
  | fuel + 1, arguments => do
    let (_, rest) ← options "" arguments
    match rest with
    | [] => return 0
    | name :: arguments =>
      match ← findCommand (← shell).searchPath name with
      | .ok path => throw (.leave (← launch fuel true path name arguments))
      | .error f =>
        complain (name ++ ": ".toList ++ faultText "not found" f)
        throw (.leave (if f = .notPermitted then 126 else 127))

/-- `.`: a file is read in. -/
def readIn : Nat → List Octets → Act Nat
  | 0, _ => throw (.die budgetSignal)
  | fuel + 1, arguments => do
    let (_, rest) ← options "" arguments
    match rest with
    | [] => return 0
    | name :: _ =>
      let s ← shell
      let w ← world
      let path ←
        if name.contains '/' then pure name
        else
          match (searchPaths s.searchPath name).find? fun p => (w.nodeOf? p).any Node.isRegular with
          | some p => pure p
          | none => failAbout name ": not found"
      match w.read path with
      | .error .isDirectory => return 0
      | .error f => fail ("cannot open ".toList ++ path ++ ": ".toList ++ faultText "No such file" f)
      | .ok bytes =>
        let before := s.speaking
        modifyShell fun s => { s with speaking := some path }
        thenAlways (runFile fuel (Octets.ofBytes bytes)) fun s => { s with speaking := before }

/-- A command of the shell itself. -/
def callBuiltin : Nat → Manner → Octets → List Octets → Act Nat
  | 0, _, _, _ => throw (.die budgetSignal)
  | fuel + 1, m, name, arguments =>
    match String.ofList name with
    | "." => readIn fuel arguments
    | "command" => describeCommand arguments
    | "eval" => runText fuel m.before ([' '].intercalate arguments)
    | "exec" => replace fuel arguments
    | "type" => type arguments
    | "wait" => waitFor fuel arguments
    | _ =>
      match builtin? name with
      | some act => act arguments
      | none => return 127

/-- Calls a function. -/
def callFunction : Nat → Manner → Command → List Octets → Act Nat
  | 0, _, _, _ => throw (.die budgetSignal)
  | fuel + 1, m, body, arguments => do
    let s ← shell
    if callLimit ≤ s.calls then
      fail ("Maximum function recursion depth (".toList ++ Decimal.ofNat callLimit ++
        ") reached".toList)
    modifyShell fun s => { s with
      positional := arguments, loops := 0, calls := s.calls + 1, optionPlace := 1
      optionOffset := none }
    let _ ← thenAlways (carryOut fuel m.before body) fun t => { t with
      positional := s.positional, loops := s.loops, calls := s.calls
      optionPlace := s.optionPlace, optionOffset := s.optionOffset
      skip := if t.skip = .function then .nothing else t.skip }
    return (← shell).status

/-- A simple command: its words, then its redirections, then its assignments. -/
def simple : Nat → Manner → List (Octets × Word) → List Word → List Redirection → Act Nat
  | 0, _, _, _, _ => throw (.die budgetSignal)
  | fuel + 1, m, assignments, words, redirections => do
    modifyShell fun s => { s with substituted := 0 }
    let output := output fuel
    let fields ← fieldsOf output words
    let s ← shell
    let (isDirect, called) := (unwrapped (fields.length + 1) fields).getD (false, fields)
    let name := called.headD []
    let function? := if isDirect || specialNames.contains name then none else s.functions.lookup name
    let isSpecial := !isDirect && specialNames.contains name
    let isOwn := function?.isNone && isBuiltin name
    let keepsStreams := isOwn && name = "exec".toList
    let streams := s.streams
    let rs ← targets output redirections
    if !(← redirectAll output rs) then
      modifyShell fun s => { s with status := 2 }
      if isSpecial then throw .error
      return 2
    let isPassing := !fields.isEmpty && !isSpecial
    if isPassing then modifyShell (·.pushLocals)
    let act : Act Nat := do
      let texts ← assignments.mapM fun (about, value) => do
        let t := Item.text (← items output false true value)
        if isPassing then modifyShell (·.keep about)
        assign about t
        if isPassing || (keepsStreams && called.length > 1) then
          modifyShell fun s => s.put about { s.variableOf about with exported := true }
        return about ++ '=' :: t
      trace streams (texts ++ fields)
      if fields.isEmpty then return (← shell).substituted
      match function? with
      | some body => callFunction fuel m body called.tail
      | none =>
        if isOwn then
          let status? ← attempt (speakingAs name (callBuiltin fuel m name called.tail))
          match status? with
          | .ok status => return status
          | .error .error => if isSpecial then throw .error else return (← shell).status
          | .error e => throw e
        else
          match ← findCommand (← shell).searchPath name with
          | .error f =>
            if name.contains '/' then launch fuel false name name called.tail
            else
              complain (name ++ ": ".toList ++ faultText "not found" f)
              return 127
          | .ok path => launch fuel (m.last && !(← shell).hasTraps) path name called.tail
    thenAlways act fun t =>
      let t := if isPassing then t.popLocals else t
      if keepsStreams then t else { t with streams }

/-- Rounds of a loop with a condition. -/
def rounds : Nat → Manner → Bool → Command → Command → Nat → Act Nat
  | 0, _, _, _, _, _ => throw (.die budgetSignal)
  | fuel + 1, m, stopWhen, condition, body, status => do
    let n ← carryOut fuel .condition condition
    match ← course with
    | .outOfFunction => return n
    | .out => return status
    | .again => rounds fuel m stopWhen condition body status
    | .on =>
      if (n == 0) == stopWhen then return status
      else
        let status ← carryOut fuel m.before body
        match ← course with
        | .on | .again => rounds fuel m stopWhen condition body status
        | _ => return status

/-- Rounds of a loop over texts. -/
def roundsOver : Nat → Manner → Octets → Command → List Octets → Nat → Act Nat
  | 0, _, _, _, _, _ => throw (.die budgetSignal)
  | _, _, _, _, [], status => return status
  | fuel + 1, m, name, body, t :: ts, _ => do
    assign name t
    let status ← carryOut fuel m.before body
    match ← course with
    | .on | .again => roundsOver fuel m name body ts status
    | _ => return status

/-- The branch of a case distinction that a text takes. -/
def distinguish : Nat → Manner → Octets → Command → Act Nat
  | 0, _, _, _ => throw (.die budgetSignal)
  | fuel + 1, m, t, c => do
    match c with
    | .branch patterns body others =>
      let isTaken ← patterns.foldlM (fun found p => do
        if found then return true
        return (Item.pattern (← items (output fuel) false false p)).accepts t) false
      if !isTaken then distinguish fuel m t others
      else
        match body with
        | .nothing => return 0
        | _ => carryOut fuel m body
    | _ => return 0

/-- The commands of a pipeline, from one on that reads from an opening: the status of the last. -/
def pipeline : Nat → Manner → Nat → Option Nat → List Command → Act Nat
  | 0, _, _, _, _ => throw (.die budgetSignal)
  | _, _, _, _, [] => return 0
  | fuel + 1, m, begun, source, c :: cs => do
    let (reading, writing, w) := (← world).addPipe []
    let ended := w.elapsed
    modifyWorld fun _ => { w with elapsed := begun }
    let ending ← inCopy fuel (!cs.isEmpty) do
      modifyShell fun s =>
        let streams := match source with
          | some opening => s.streams.set 0 opening
          | none => s.streams
        { s with streams := if cs.isEmpty then streams else streams.set 1 writing }
      carryOut fuel { m with last := true } c
    modifyWorld fun w => { w with elapsed := max w.elapsed ended }
    let status ← statusOf ending
    if cs.isEmpty then return status else pipeline fuel m begun (some reading) cs

/-- Carries out a command. -/
def carryOut : Nat → Manner → Command → Act Nat
  | 0, _, _ => throw (.die budgetSignal)
  | fuel + 1, m, c => do
    runTraps fuel
    let atLine (line : Nat) : Act Unit := modifyShell fun s => { s with line }
    if (← shell).has 'n' then return 0
    match c with
    | .nothing => return 0
    | .branch .. => return 0
    | .simple line assignments words redirections =>
      atLine line
      let n ← simple fuel m assignments words redirections
      settle m true n
      runTraps fuel
      return (← shell).status
    | .pipe first second =>
      let n ← pipeline fuel m (← world).elapsed none (Command.pipe first second).stages
      settle m true n
      runTraps fuel
      return n
    | .both first second =>
      let n ← carryOut fuel .condition first
      if n ≠ 0 || (← isSkipping) then return n
      carryOut fuel m second
    | .either first second =>
      let n ← carryOut fuel .condition first
      if n = 0 || (← isSkipping) then return n
      carryOut fuel m second
    | .negated inner =>
      let n ← carryOut fuel .condition inner
      let n := if n = 0 then 1 else 0
      settle m false n
      return n
    | .sequence first second =>
      let n ← carryOut fuel m.before first
      if ← isSkipping then return n
      carryOut fuel m second
    | .background line inner =>
      atLine line
      beginJob fuel inner
      settle m true 0
      runTraps fuel
      return 0
    | .redirected line inner redirections =>
      atLine line
      let streams := (← shell).streams
      let rs ← targets (output fuel) redirections
      let n ←
        if ← redirectAll (output fuel) rs then
          thenAlways (carryOut fuel m.before inner) fun s => { s with streams }
        else pure 2
      settle m false n
      return n
    | .subshell line inner redirections =>
      atLine line
      let rs ← targets (output fuel) redirections
      let body : Act Nat := do
        rs.forM fun (r, t) => redirect (output fuel) r t
        carryOut fuel { m with last := true } inner
      if m.last && !(← shell).hasTraps then body
      else
        let n ← statusOf (← inCopy fuel false body)
        settle m true n
        runTraps fuel
        return n
    | .choice condition yes no =>
      let n ← carryOut fuel .condition condition
      if ← isSkipping then return n
      match (if n = 0 then yes else no) with
      | .nothing =>
        settle m false 0
        return 0
      | branch => carryOut fuel m branch
    | .loop stopWhen condition body =>
      modifyShell fun s => { s with loops := s.loops + 1 }
      let n ← thenAlways (rounds fuel m stopWhen condition body 0) fun s =>
        { s with loops := s.loops - 1 }
      settle m false n
      return n
    | .each line name words body =>
      atLine line
      let texts ← words.foldlM (fun ts w => return ts ++ (← arguments (output fuel) w)) []
      modifyShell fun s => { s with loops := s.loops + 1 }
      let n ← thenAlways (roundsOver fuel m name body texts 0) fun s =>
        { s with loops := s.loops - 1 }
      settle m false n
      return n
    | .select line subject branches =>
      atLine line
      let t ← textOf (output fuel) subject
      let n ← distinguish fuel m t branches
      settle m false n
      return n
    | .define name body =>
      modifyShell fun s => { s with
        functions := (name, body) :: s.functions.filter (·.1 ≠ name), status := 0 }
      return 0

end

end Shell

end ProgramTrace.Host
