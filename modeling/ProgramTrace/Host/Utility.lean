import ProgramTrace.Host.Condition
import ProgramTrace.Host.Format

/-!
# `ProgramTrace.Host.Utility` — the small programs of the system.

A utility acts on a world and gives a status.  What it says about a fault goes to its error stream.
-/

namespace ProgramTrace.Host.Utility

open Files (Fault Node)

/-! ## Reports -/

/-- What is said when a file cannot be treated. -/
def complaint (utility what : String) (path : Octets) (f : Fault) : Octets :=
  utility.toList ++ ": ".toList ++ what.toList ++ " '".toList ++ path ++ "': ".toList ++ f.name ++
    ['\n']

/-- Does something to each path; the status is 1 if any of them fails. -/
def forPaths (w : World) (io : Streams) (utility what : String) (quiet : Fault → Bool)
    (act : World → Octets → Except Fault World) (paths : List Octets) : World × Nat :=
  paths.foldl (fun (w, status) path =>
    match act w path with
    | .ok w => (w, status)
    | .error f =>
      if quiet f then (w, status) else (w.say io 2 (complaint utility what path f), 1)) (w, 0)

/-- What is said when operands are missing. -/
def missingOperand (w : World) (io : Streams) (utility : String) : World × Nat :=
  (w.say io 2 (utility.toList ++ ": missing operand\nTry '".toList ++ utility.toList ++
    " --help' for more information.\n".toList), 1)

/-- The letters of the arguments that are options, and the other arguments. -/
def options (arguments : List Octets) : List Char × List Octets :=
  let before := arguments.takeWhile (· ≠ ['-', '-'])
  let after := (arguments.drop before.length).tail
  let isOption (a : Octets) : Bool := a.head? == some '-' && a.length > 1
  ((before.filter isOption).flatMap List.tail, before.filter (!isOption ·) ++ after)

/-! ## Doing nothing -/

/-- A place on the net, as help texts name it. -/
def link (host : List String) (path : String) : String :=
  "<https:/" ++ "/" ++ ".".intercalate host ++ "/" ++ path ++ ">"

/-- The help text of `true` and `false`. -/
def verdictHelp (name outcome : String) : Octets :=
  ("Usage: " ++ name ++ " [ignored command line arguments]\n  or:  " ++ name ++
    " OPTION\nExit with a status code indicating " ++ outcome ++ ".\n\n" ++
    "      --help        display this help and exit\n" ++
    "      --version     output version information and exit\n\n" ++
    "NOTE: your shell may have its own version of " ++ name ++ ", which usually supersedes\n" ++
    "the version described here.  Please refer to your shell's documentation\n" ++
    "for details about the options it supports.\n\n" ++
    "GNU coreutils online help: " ++ link ["www", "gnu", "org"] "software/coreutils/" ++
    "\nReport any translation bugs to " ++ link ["translationproject", "org"] "team/" ++
    "\nFull documentation " ++ link ["www", "gnu", "org"] ("software/coreutils/" ++ name) ++ "\n" ++
    "or available locally via: info '(coreutils) " ++ name ++ " invocation'\n").toList

/-- `true` and `false`. -/
def verdict (w : World) (io : Streams) (name outcome : String) (status : Nat)
    (arguments : List Octets) : World × Nat :=
  if arguments = ["--help".toList] then (w.say io 1 (verdictHelp name outcome), status)
  else (w, status)

/-! ## Waiting -/

/-- A length of time as `sleep` takes it, in nanoseconds: a decimal number with an optional unit. -/
def interval? (t : Octets) : Option Nat := do
  let whole := t.takeWhile Char.isDigit
  let rest := t.drop whole.length
  let (fraction, rest) := match rest with
    | '.' :: more => (more.takeWhile Char.isDigit, more.dropWhile Char.isDigit)
    | _ => ([], rest)
  let unit ← match rest with
    | [] | ['s'] => some 1
    | ['m'] => some 60
    | ['h'] => some 3600
    | ['d'] => some 86400
    | _ => none
  if whole = [] ∧ fraction = [] then none
  else
    let seconds := (Decimal.toNat? whole).getD 0
    let nanos := (Decimal.toNat? ((fraction ++ List.replicate 9 '0').take 9)).getD 0
    some ((seconds * 1000000000 + nanos) * unit)

def sleep (w : World) (io : Streams) (arguments : List Octets) : World × Nat :=
  let hint := "Try 'sleep --help' for more information.\n".toList
  if arguments.isEmpty then missingOperand w io "sleep"
  else
    match arguments.filter fun a => (interval? a).isNone with
    | [] => (w.wait (arguments.foldl (fun n a => n + (interval? a).getD 0) 0), 0)
    | ('-' :: c :: _) :: _ =>
      (w.say io 2 ("sleep: invalid option -- '".toList ++ c :: '\'' :: '\n' :: hint), 1)
    | wrong =>
      let lines := wrong.flatMap fun a => "sleep: invalid time interval '".toList ++ a ++ ['\'', '\n']
      (w.say io 2 (lines ++ hint), 1)

/-! ## Files -/

/-- Takes a path away; a directory only with `recursive`. -/
def removePath (recursive : Bool) (w : World) (path : Octets) : Except Fault World := do
  let site ← w.siteOf path
  match w.nodeAt site with
  | some (.directory ..) => if recursive then w.unlink path else .error .isDirectory
  | _ => w.unlink path

def rm (w : World) (io : Streams) (arguments : List Octets) : World × Nat :=
  let (flags, paths) := options arguments
  let force := flags.contains 'f'
  if paths.isEmpty then if force then (w, 0) else missingOperand w io "rm"
  else forPaths w io "rm" "cannot remove"
    (fun f => force && (f == .notFound || f == .notDirectory))
    (removePath (flags.contains 'r' || flags.contains 'R')) paths

/-- Makes a directory and those around it that are missing. -/
def makePath (w : World) (path : Octets) : Except Fault World :=
  let names := Files.Path.names path
  let start : Octets := if Files.Path.isAbsolute path then ['/'] else []
  (List.range names.length).foldlM (fun w n =>
    let part := start ++ ['/'].intercalate (names.take (n + 1))
    match w.find part with
    | .ok i => if (w.files.node? i).any Node.isDirectory then .ok w else .error .notDirectory
    | .error _ => w.makeDirectory part) w

def mkdir (w : World) (io : Streams) (arguments : List Octets) : World × Nat :=
  let (flags, paths) := options arguments
  if paths.isEmpty then missingOperand w io "mkdir"
  else forPaths w io "mkdir" "cannot create directory" (fun _ => false)
    (if flags.contains 'p' then makePath else World.makeDirectory) paths

def rmdir (w : World) (io : Streams) (arguments : List Octets) : World × Nat :=
  let (_, paths) := options arguments
  if paths.isEmpty then missingOperand w io "rmdir"
  else forPaths w io "rmdir" "failed to remove" (fun _ => false) (fun w path => do
    let i ← w.find path
    if !(w.files.node? i).any Node.isDirectory then .error .notDirectory
    else if !(w.files.entries i).isEmpty then .error .notEmpty
    else w.unlink path) paths

/-- Sets whether a file can be run. -/
def setExecutable (executable : Bool) (w : World) (path : Octets) : Except Fault World := do
  let i ← w.find path
  match w.files.node? i with
  | some (.file bytes _) => .ok { w with files := w.files.put i (.file bytes executable) }
  | _ => .ok w

/-- Whether a mode of `chmod` lets a file be run; nothing if it does not say. -/
def modeExecutes? (mode : Octets) : Option Bool :=
  if mode.all Char.isDigit then some (mode.any fun c => c.toNat % 2 = 1)
  else if mode.contains 'x' then some (mode.contains '+' || mode.contains '=') else none

def chmod (w : World) (io : Streams) (arguments : List Octets) : World × Nat :=
  match arguments with
  | mode :: path :: paths =>
    forPaths w io "chmod" "cannot access" (fun _ => false) (fun w path =>
      match modeExecutes? mode with
      | some x => setExecutable x w path
      | none => (w.find path).map fun _ => w) (path :: paths)
  | _ => missingOperand w io "chmod"

def cat (w : World) (io : Streams) (arguments : List Octets) : World × Nat :=
  let contents (w : World) (path : Octets) : Except Fault (Bytes × World) :=
    if path = ['-'] then w.drain io 0 else (w.read path).map fun bytes => (bytes, w)
  let paths := (options arguments).2
  (if paths.isEmpty then [['-']] else paths).foldl (fun (w, status) path =>
    match contents w path with
    | .ok (bytes, w) =>
      match w.put io 1 bytes with
      | .ok w => (w, status)
      | .error f => (w.say io 2 ("cat: write error: ".toList ++ f.name ++ ['\n']), 1)
    | .error f => (w.say io 2 ("cat: ".toList ++ path ++ ": ".toList ++ f.name ++ ['\n']), 1)) (w, 0)

def touch (w : World) (io : Streams) (arguments : List Octets) : World × Nat :=
  let (_, paths) := options arguments
  if paths.isEmpty then
    (w.say io 2
      "touch: missing file operand\nTry 'touch --help' for more information.\n".toList, 1)
  else forPaths w io "touch" "cannot touch" (fun _ => false) (fun w path =>
    match w.find path with
    | .ok _ => .ok w
    | .error _ => (w.files.make path.toText).map fun r => { w with files := r.2 }) paths

/-- The path of a name in a directory, if a path leads to a directory, or else the path itself. -/
def within (w : World) (path source : Octets) : Octets :=
  match w.nodeOf? path, (Files.Path.names source).getLast? with
  | some (.directory ..), some name => path ++ '/' :: name
  | _, _ => path

/-- `ln`: a symbolic link with `-s`, otherwise a second name. -/
def ln (w : World) (io : Streams) (arguments : List Octets) : World × Nat :=
  let (flags, paths) := options arguments
  match paths with
  | [source, path] =>
    forPaths w io "ln" "failed to create link" (fun _ => false) (fun w path => do
      let site ← w.siteOf path
      let w := if flags.contains 'f' then { w with files := w.files.remove site.1 site.2 } else w
      match w.nodeAt site with
      | some _ => .error .nameTaken
      | none =>
        if flags.contains 's' then w.place path (.link source.toText)
        else do
          let i ← w.find source
          .ok { w with files := w.files.reenter site.1 (· ++ [(site.2, i)]) }) [within w path source]
  | _ => missingOperand w io "ln"

def cp (w : World) (io : Streams) (arguments : List Octets) : World × Nat :=
  match (options arguments).2 with
  | [source, path] =>
    forPaths w io "cp" "cannot copy" (fun _ => false) (fun w path => do
      let i ← w.find source
      match w.files.node? i with
      | some (.file bytes x) =>
        let taken := w.nodeOf? path
        let (j, files) ← w.files.openForWriting path.toText
        let x := match taken with
          | some (.file _ old) => old
          | _ => x
        .ok { w with files := files.put j (.file bytes x) }
      | some (.program name) => w.place path (.program name)
      | _ => .error .isDirectory) [within w path source]
  | _ => missingOperand w io "cp"

def mv (w : World) (io : Streams) (arguments : List Octets) : World × Nat :=
  match (options arguments).2 with
  | [source, path] =>
    forPaths w io "mv" "cannot move" (fun _ => false) (fun w path => do
      let old ← w.siteOf source
      let new ← w.siteOf path
      match w.files.entry? old.1 old.2 with
      | none => .error .notFound
      | some i =>
        let files := (w.files.remove old.1 old.2).remove new.1 new.2
        .ok { w with files := files.reenter new.1 (· ++ [(new.2, i)]) }) [within w path source]
  | _ => missingOperand w io "mv"

/-! ## Printing and deciding -/

/-- Says something about a utility's arguments. -/
def remark (w : World) (io : Streams) (utility : String) (t : Octets) : World :=
  w.say io 2 (utility.toList ++ ": ".toList ++ t ++ ['\n'])

/-- Prints a text for a utility; the status is 1 if it is not taken. -/
def print (w : World) (io : Streams) (utility : String) (t : Octets) (status : Nat) : World × Nat :=
  match w.put io 1 t.toBytes with
  | .ok w => (w, status)
  | .error f => (remark w io utility ("write error: ".toList ++ f.name), 1)

/-- `echo`, which leaves escapes as they are. -/
def echo (w : World) (io : Streams) (arguments : List Octets) : World × Nat :=
  print w io "echo" (match arguments with
    | ['-', 'n'] :: rest => [' '].intercalate rest
    | _ => [' '].intercalate arguments ++ ['\n']) 0

def printf (w : World) (io : Streams) (arguments : List Octets) : World × Nat :=
  match arguments with
  | form :: arguments =>
    let (t, complaints, status) := Format.printf form arguments
    print (complaints.foldl (fun w t => remark w io "printf" t) w) io "printf" t (min status 1)
  | [] => missingOperand w io "printf"

def test (w : World) (io : Streams) (arguments : List Octets) : World × Nat :=
  match Condition.decide w arguments with
  | .ok true => (w, 0)
  | .ok false => (w, 1)
  | .error t => (remark w io "test" t, 2)

/-- `[`, which is `test` with a closing bracket. -/
def bracket (w : World) (io : Streams) (arguments : List Octets) : World × Nat :=
  if arguments.getLast? = some [']'] then test w io arguments.dropLast
  else (remark w io "[" "missing ']'".toList, 2)

/-! ## All of them -/

/-- The utilities by name. -/
def all : List (Octets × (World → Streams → List Octets → World × Nat)) :=
  [("true".toList, fun w io => verdict w io "true" "success" 0),
    ("false".toList, fun w io => verdict w io "false" "failure" 1),
    ("sleep".toList, sleep), ("rm".toList, rm), ("mkdir".toList, mkdir), ("rmdir".toList, rmdir),
    ("chmod".toList, chmod), ("cat".toList, cat), ("touch".toList, touch), ("ln".toList, ln),
    ("cp".toList, cp), ("mv".toList, mv), ("echo".toList, echo), ("printf".toList, printf),
    ("test".toList, test), ("[".toList, bracket)]

/-- A utility by its name. -/
def named? (name : Octets) : Option (World → Streams → List Octets → World × Nat) := all.lookup name

end ProgramTrace.Host.Utility
