import ProgramTrace.Host.Shell.Act

/-!
# `ProgramTrace.Host.Shell.Directory` — the current directory of a shell.

The shell keeps the path by which it came to a directory, in which `..` takes the last name away; with
`-P` it keeps the path that has no links.
-/

namespace ProgramTrace.Host.Shell.Act

/-- A path from a directory with `.` and `..` carried out on the text. -/
def resolvedPath (from' path : Octets) : Octets :=
  let whole := if path.head? = some '/' then path else from' ++ '/' :: path
  let names := (Text.parts '/' whole).foldl (fun names n =>
    if n = [] ∨ n = ['.'] then names
    else if n = ['.', '.'] then names.tail
    else n :: names) []
  let root : Octets := if "//".toList.isPrefixOf whole ∧ !"///".toList.isPrefixOf whole then ['/'] else []
  root ++ '/' :: ['/'].intercalate names.reverse

/-- Goes to a directory: whether it is there. -/
def goTo (physical : Bool) (path : Octets) : Act Bool := do
  let s ← shell
  let w ← world
  let old := (s.valueOf? "PWD".toList).getD []
  let target := resolvedPath old path
  match w.find (if physical then path else target) with
  | .error _ => return false
  | .ok i =>
    if !(w.files.node? i).any Files.Node.isDirectory then return false
    modifyWorld fun w => { w with files := { w.files with here := i } }
    let put (name : String) (value : Octets) : Act Unit :=
      modifyShell fun s => s.put name.toList ⟨some value, true, false⟩
    put "OLDPWD" old
    put "PWD" (if physical then w.pathOf i else target)
    return true

/-- `cd`. -/
def changeDirectory (arguments : List Octets) : Act Nat := do
  let (found, rest) ← options "LP" arguments
  let physical := found.getLast?.any (·.1 = 'P')
  let s ← shell
  let shows := rest.head? == some ['-']
  let target := match rest with
    | [] => (s.valueOf? "HOME".toList).getD []
    | ['-'] :: _ => (s.valueOf? "OLDPWD".toList).getD []
    | t :: _ => t
  let isPlain := target.head? = some '/' || [['.'], ['.', '.']].contains (target.takeWhile (· ≠ '/'))
  let aim := if target = [] then ['.'] else target
  let w ← world
  let fromPaths := if isPlain then none else do
    let directories ← s.valueOf? "CDPATH".toList
    (Text.parts ':' directories).findSome? fun d =>
      let path := if d = [] then aim else d ++ '/' :: aim
      if (w.nodeOf? path).any Files.Node.isDirectory then some (path, d != []) else none
  let (path, found) := fromPaths.getD (aim, false)
  if ← goTo physical path then
    if shows || found then
      print (((← shell).valueOf? "PWD".toList).getD [] ++ ['\n'])
    return 0
  else fail ("can't cd to ".toList ++ target)

/-- `pwd`. -/
def printDirectory (arguments : List Octets) : Act Nat := do
  let (found, _) ← options "LP" arguments
  let s ← shell
  let w ← world
  let path := if found.getLast?.any (·.1 = 'P') then w.pathOf w.files.here
    else (s.valueOf? "PWD".toList).getD []
  print (path ++ ['\n'])
  return 0

end ProgramTrace.Host.Shell.Act
