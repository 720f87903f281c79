import ProgramTrace.Files.Fault
import ProgramTrace.Text.Utf8

/-!
# `ProgramTrace.Files.Store` — files, directories and links, and how paths lead to them.

A path is a text.  `Path.steps` is how the system walks it, where a slash at the end asks for one more step:
to `.` or, where a file is to be made, to `/`, which is no name.  In `Path.components` repeated slashes,
slashes at the end and a `.` after the start do not count.

A store is a list of nodes; a node is known by its place in the list and never moves, so that two paths
denote the same file exactly if they lead to the same place.  `Store.locate` walks a path, following
symbolic links up to a limit.  It ends at a node, or at a free name in a directory that exists.
`Store.openForWriting` opens a path as an export does: the file is made if its name is free (`Store.make`)
and emptied if it is not.  A name with a slash after it, at the end of the path or of the last link on it,
denotes no file that could be made, whether or not it is taken.  A file can be where there is no room for
bytes (`Store.full`): it can be made and emptied, but not written to.
-/

namespace ProgramTrace.Files

/-! ## Paths -/

namespace Path

def isAbsolute (p : Text) : Bool := p.head? = some '/'

def endsWithSlash (p : Text) : Bool := p.getLast? = some '/'

def names (p : Text) : List Text := (Text.parts '/' p).filter (· ≠ [])

def steps (ending : Text) (p : Text) : List Text :=
  names p ++ if endsWithSlash p then [ending] else []

inductive Component where
  | root
  | here
  | parent
  | name (n : Text)
  deriving DecidableEq, Repr

def Component.ofName (n : Text) : Component :=
  if n = ['.'] then .here else if n = ['.', '.'] then .parent else .name n

/-- The components of a path: the root comes first if the path is absolute, and `.` counts only as the
first name of a relative path. -/
def components (p : Text) : List Component :=
  let named := (names p).map Component.ofName
  if isAbsolute p then .root :: named.filter (· ≠ .here)
  else match named with
    | .here :: rest => .here :: rest.filter (· ≠ .here)
    | rest => rest.filter (· ≠ .here)

/-- A path taken from a directory, which is left out if the path is absolute. -/
def join (directory p : Text) : Text :=
  if isAbsolute p then p
  else if directory = [] ∨ endsWithSlash directory then directory ++ p
  else directory ++ '/' :: p

end Path

/-! ## Nodes -/

inductive Device where
  /-- Takes everything and keeps nothing. -/
  | null
  /-- Takes nothing. -/
  | full
  /-- The terminal of a process, which has none. -/
  | terminal
  /-- The standard output of the tool, where it takes everything; where it does not, a path leads to what
  is behind it, such as `full`. -/
  | stdout
  /-- Its standard error, likewise. -/
  | stderr
  deriving DecidableEq, Repr

inductive Node where
  | file (contents : Bytes) (executable : Bool)
  | directory (parent : Nat) (entries : List (Text × Nat))
  | link (target : Text)
  | device (d : Device)
  /-- A program that belongs to the system, by its name. -/
  | program (name : Text)
  deriving DecidableEq, Repr

namespace Node

/-- Whether a node is a regular file, which the system's own programs are too. -/
def isRegular : Node → Bool
  | .file .. | .program _ => true
  | _ => false

def isDirectory : Node → Bool
  | .directory .. => true
  | _ => false

end Node

/-- All nodes, the first of which is the root, the directory from which relative paths are walked, and
the places at which a file takes no byte. -/
structure Store where
  nodes : List Node
  here : Nat
  full : List Nat := []
  deriving DecidableEq, Repr

namespace Store

/-! ## Single nodes -/

def root : Nat := 0

def node? (s : Store) (i : Nat) : Option Node := s.nodes[i]?

def put (s : Store) (i : Nat) (n : Node) : Store := { s with nodes := s.nodes.set i n }

/-- A node more: the place it gets, and the store with it. -/
def add (s : Store) (n : Node) : Nat × Store :=
  (s.nodes.length, { s with nodes := s.nodes ++ [n] })

def contents? (s : Store) (i : Nat) : Option Bytes :=
  match s.node? i with
  | some (.file bytes _) => some bytes
  | _ => none

/-- A file with other contents; what is not a file stays as it is. -/
def modify (s : Store) (i : Nat) (f : Bytes → Bytes) : Store :=
  match s.node? i with
  | some (.file bytes x) => s.put i (.file (f bytes) x)
  | _ => s

/-! ## Directories -/

def entries (s : Store) (i : Nat) : List (Text × Nat) :=
  match s.node? i with
  | some (.directory _ es) => es
  | _ => []

def parent (s : Store) (i : Nat) : Nat :=
  match s.node? i with
  | some (.directory p _) => p
  | _ => i

def entry? (s : Store) (directory : Nat) (name : Text) : Option Nat :=
  ((s.entries directory).find? (·.1 == name)).map (·.2)

def reenter (s : Store) (i : Nat) (f : List (Text × Nat) → List (Text × Nat)) : Store :=
  match s.node? i with
  | some (.directory p es) => s.put i (.directory p (f es))
  | _ => s

/-- A new node under a free name of a directory. -/
def insert (s : Store) (directory : Nat) (name : Text) (n : Node) : Nat × Store :=
  let (i, s) := s.add n
  (i, s.reenter directory (· ++ [(name, i)]))

def remove (s : Store) (directory : Nat) (name : Text) : Store :=
  s.reenter directory (·.filter (·.1 != name))

/-! ## Walking -/

inductive Place where
  | node (i : Nat)
  | vacant (directory : Nat) (name : Text)
  deriving DecidableEq, Repr

/-- The longest name that a directory takes, in bytes. -/
def nameLimit : Nat := 255

/-- The longest path that the system takes, in bytes. -/
def pathLimit : Nat := 4095

/-- How many links a walk follows. -/
def linkLimit : Nat := 40

/-- What a path is walked for. -/
inductive Purpose where
  | use
  /-- For what it denotes, where a link at the end is not followed. -/
  | own
  /-- For a file that is made if there is none. -/
  | make
  deriving DecidableEq, Repr

/-- The step that a slash at the end of a path asks for. -/
def Purpose.ending : Purpose → Text
  | .make => ['/']
  | _ => ['.']

/-- Walks steps from a directory.  What a link is followed with is given. -/
def walkWith (s : Store) (purpose : Purpose) (jump : Nat → List Text → Except Fault Place) :
    Nat → List Text → Except Fault Place
  | directory, [] => .ok (.node directory)
  | directory, name :: rest =>
    if name = ['.'] ∨ name = ['/'] then walkWith s purpose jump directory rest
    else if name = ['.', '.'] then walkWith s purpose jump (s.parent directory) rest
    else if rest = [['/']] then .error .isDirectory
    else if nameLimit < name.toUtf8.length then .error .nameTooLong
    else match s.entry? directory name with
      | none => if rest = [] then .ok (.vacant directory name) else .error .notFound
      | some i =>
        match s.node? i with
        | some (.link target) =>
          if rest = [] ∧ purpose = .own then .ok (.node i)
          else
            let steps := if rest = [] then Path.steps purpose.ending target
              else Path.steps ['.'] target ++ rest
            jump (if Path.isAbsolute target then root else directory) steps
        | some (.directory ..) => walkWith s purpose jump i rest
        | some _ => if rest = [] then .ok (.node i) else .error .notDirectory
        | none => .error .notFound

/-- Walks steps from a directory, following at most a given number of links. -/
def walk (s : Store) (purpose : Purpose) : Nat → Nat → List Text → Except Fault Place
  | 0 => s.walkWith purpose fun _ _ => .error .tooManyLinks
  | links + 1 => s.walkWith purpose (s.walk purpose links)

def locate (s : Store) (purpose : Purpose) (path : Text) : Except Fault Place :=
  if path = [] then .error .notFound
  else if pathLimit < path.toUtf8.length then .error .nameTooLong
  else s.walk purpose linkLimit (if Path.isAbsolute path then root else s.here)
    (Path.steps purpose.ending path)

/-- The node that a path leads to, which has to exist. -/
def find (s : Store) (path : Text) : Except Fault Nat := do
  match ← s.locate .use path with
  | .node i => .ok i
  | .vacant .. => .error .notFound

def device? (s : Store) (path : Text) : Option Device :=
  match s.find path with
  | .ok i =>
    match s.node? i with
    | some (.device d) => some d
    | _ => none
  | .error _ => none

def isRegularFile (s : Store) (path : Text) : Bool :=
  !path.contains '\x00' &&
  match s.find path with
  | .ok i => (s.node? i).any Node.isRegular
  | .error _ => false

/-! ## Opening -/

/-- The place of the file that a path denotes, and the store with it: it is made if its name is free. -/
def make (s : Store) (path : Text) : Except Fault (Nat × Store) :=
  if path.contains '\x00' then .error .nulInPath
  else do
    match ← s.locate .make path with
    | .vacant directory name => .ok (s.insert directory name (.file [] false))
    | .node i =>
      match s.node? i with
      | none => .error .notFound
      | some (.directory ..) => .error .isDirectory
      | some (.program _) => .error .notPermitted
      | some (.device .terminal) => .error .noDevice
      | some _ => .ok (i, s)

/-- Opens a path for writing: the place of what it denotes, and the store in which a file there is
empty. -/
def openForWriting (s : Store) (path : Text) : Except Fault (Nat × Store) :=
  (s.make path).map fun (i, s) => (i, s.modify i fun _ => [])

end Store

end ProgramTrace.Files
