import ProgramTrace.Host.World

/-!
# `ProgramTrace.Host.Image` — which program a path starts, and which path a name.

A file is started by its first bytes: a program of the system as it is, and a script by the program that
its first line names after `#!`, which may be a script again (`Image.load`).  A name without a slash is
looked up in the directories of the search path, either by trying to start it in each of them
(`tryPaths`), where a name that is not found is looked up further and a refusal is kept in mind, or by looking
for a file that can be started (`commandPath`).
-/

namespace ProgramTrace.Host

open Files (Fault Node Store)

/-! ## The first line of a script -/

def headLength : Nat := 256

def isLineBlank (c : Char) : Bool := c == ' ' || c == '\t'

def withoutBlanksAfter (t : Octets) : Octets := (t.reverse.dropWhile isLineBlank).reverse

/-- The interpreter and its one optional argument that a line names. -/
def interpreterOn? (line : Octets) : Option (Octets × List Octets) :=
  match line.dropWhile isLineBlank with
  | [] => none
  | text =>
    let name := text.takeWhile fun c => !isLineBlank c && c ≠ '\x00'
    match text.drop name.length with
    | [] | '\x00' :: _ => some (name, [])
    | after => some (name, [(after.dropWhile isLineBlank).takeWhile (· ≠ '\x00')])

/-- The interpreter and its one optional argument that the first line of a file names.  The file counts as
if zeros followed it; if the line does not end in what is looked at, nothing may be missing from the
name. -/
def interpreter? (bytes : Bytes) : Option (Octets × List Octets) :=
  match Octets.ofBytes ((bytes ++ List.replicate headLength 0).take headLength) with
  | '#' :: '!' :: text =>
    let line := text.takeWhile fun c => c ≠ '\n' && c ≠ '\x00'
    if text[line.length]? = some '\n' then interpreterOn? (withoutBlanksAfter line)
    else if (text.dropWhile isLineBlank).all fun c => !isLineBlank c && c ≠ '\x00' then none
    else interpreterOn? (withoutBlanksAfter text.dropLast)
  | _ => none

/-! ## Images -/

/-- What is started in the end: a program of the system, the name it is started under, and its
arguments. -/
structure Image where
  program : Octets
  zero : Octets
  arguments : List Octets
  deriving DecidableEq, Repr

def startable (w : World) (path : Octets) : Except Fault Node := do
  let i ← w.find path
  match w.files.node? i with
  | some (.file bytes true) => .ok (.file bytes true)
  | some (.program name) => .ok (.program name)
  | _ => .error .notPermitted

/-- How many scripts may be read by one another, besides the first. -/
def scriptLimit : Nat := 5

def argumentLimit : Nat := 131071

/-- How many bytes the arguments and the environment of a program may take up together. -/
def commandLimit : Nat := 2097152

def fitsCommand (environment : List (Octets × Octets)) (arguments : List Octets) : Bool :=
  let texts := arguments ++ environment.map fun v => v.1 ++ '=' :: v.2
  texts.all (·.length ≤ argumentLimit) &&
    texts.foldl (fun n t => n + t.length + 9) 0 ≤ commandLimit

namespace Image

/-- What a path starts, under a name and with arguments, where a number of scripts may still be read by
one another.  The interpreter of a script has to be there even if it is one too many. -/
def follow (w : World) : Nat → Octets → Octets → List Octets → Except Fault Image
  | scripts, path, zero, arguments => do
    match ← startable w path with
    | .program name => .ok ⟨name, zero, arguments⟩
    | .file bytes _ =>
      match interpreter? bytes with
      | none => .error .formatUnknown
      | some (name, argument) =>
        let _ ← startable w name
        match scripts with
        | 0 => .error .tooManyLinks
        | scripts + 1 => follow w scripts name name (argument ++ path :: arguments)
    | _ => .error .notPermitted

/-- What a path starts, in an environment, under a name and with arguments. -/
def load (w : World) (environment : List (Octets × Octets)) (path zero : Octets)
    (arguments : List Octets) : Except Fault Image :=
  if fitsCommand environment (zero :: arguments) then follow w scriptLimit path zero arguments
  else .error .tooMuchInCommand

end Image

/-! ## Names -/

/-- The parts of a search path, each put before a name; an empty part is the current directory. -/
def searchPaths (setting name : Octets) : List Octets :=
  (Text.parts ':' setting).map fun directory =>
    if directory = [] then name else directory ++ '/' :: name

/-- Tries paths in order.  One that is not there is passed over, and so is one that is refused, which
counts if no later one succeeds. -/
def tryPaths (act : Octets → Except Fault α) : Fault → Bool → List Octets → Except Fault α
  | last, refused, [] => .error (if refused then .notPermitted else last)
  | _, refused, p :: ps =>
    match act p with
    | .ok a => .ok a
    | .error .notFound => tryPaths act .notFound refused ps
    | .error .notDirectory => tryPaths act .notDirectory refused ps
    | .error .notPermitted => tryPaths act .notPermitted true ps
    | .error f => .error f

/-- The first of some paths that leads to a file that can be started; otherwise the last fault that was
more than a missing file. -/
def commandPath (w : World) : Fault → List Octets → Except Fault Octets
  | last, [] => .error last
  | last, p :: ps =>
    match startable w p with
    | .ok _ => .ok p
    | .error .notFound | .error .notDirectory => commandPath w last ps
    | .error f => commandPath w f ps

def defaultSearchPath : Octets := "/bin:/usr/bin".toList

/-- What is started for a program with arguments: what a path with a slash leads to, or what its name is
found as. -/
def imageOf (w : World) (environment : List (Octets × Octets)) (program : Octets)
    (arguments : List Octets) : Except Fault Image :=
  let act (path : Octets) := Image.load w environment path program arguments
  if program = [] then .error .notFound
  else if program.contains '/' then act program
  else if Store.nameLimit < program.length then .error .nameTooLong
  else
    let setting := (environment.lookup "PATH".toList).getD defaultSearchPath
    tryPaths act .notFound false (searchPaths setting program)

end ProgramTrace.Host
