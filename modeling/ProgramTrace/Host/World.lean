import ProgramTrace.Host.Octet
import ProgramTrace.Launch

/-!
# `ProgramTrace.Host.World` — what programs act on while they run.

A world holds the files, what has been opened, the output so far and the time that has passed.  Programs
speak of numbered streams; which opening a number means is a table of each program (`Streams`), so that a
shell can set it anew for each command, and two numbers with one opening share the place in the file.
Paths are octets here.
-/

namespace ProgramTrace.Host

open Files (Device Fault Node Store)

/-! ## Worlds -/

/-- What an opening leads to. -/
inductive Channel where
  | stdout
  | stderr
  /-- A pipe, by its number. -/
  | pipe (n : Nat)
  /-- A node of the files, by its place. -/
  | node (i : Nat)
  deriving DecidableEq, Repr

/-- Something that has been opened: what it leads to, the place in the file, whether writing always
happens at the end, and what it has been opened for. -/
structure Opening where
  channel : Channel
  place : Nat
  appends : Bool
  reads : Bool
  writes : Bool
  deriving DecidableEq, Repr

/-- What programs act on. -/
structure World where
  files : Store
  openings : List Opening
  /-- What has been written to each pipe and not yet read. -/
  pipes : List Bytes
  stdout : Bytes
  stderr : Bytes
  /-- When the first program was started, and how long the programs have run since, in nanoseconds. -/
  clock : Instant
  elapsed : Nat
  /-- The number of the next process, and the processes that are running. -/
  nextProcess : Nat
  running : List Nat
  /-- Signals that have been sent and not yet received, each with the process it is for. -/
  signals : List (Nat × Nat)
  /-- Whether commands that nobody waits for are still carried out after the program that began them. -/
  lingers : Bool

/-- The streams of a program: the opening that each number means. -/
abbrev Streams := List (Nat × Nat)

/-- The standard streams: input, output and errors. -/
def standardStreams : Streams := [(0, 0), (1, 1), (2, 2)]

/-- The streams with another opening under a number. -/
def Streams.set (io : Streams) (stream opening : Nat) : Streams :=
  (stream, opening) :: io.filter (·.1 != stream)

/-- What a process hands on to a program that it starts: its streams, its environment, its number, the mask
for new files, and the signals that it passes over. -/
structure Inheritance where
  streams : Streams
  environment : List (Octets × Octets)
  parent : Nat
  mask : Nat
  ignored : List Nat

/-- The number of the process that starts the first program. -/
def firstProcess : Nat := 1000

/-- What the first program gets, in an environment. -/
def Inheritance.first (environment : List (Octets × Octets)) : Inheritance where
  streams := standardStreams
  environment := environment
  parent := firstProcess
  mask := 0o022
  ignored := []

namespace World

/-- The world at the start of a program: its input is empty. -/
def initial (files : Store) (lingers : Bool) : World where
  files := files
  openings := [⟨.pipe 0, 0, false, true, false⟩, ⟨.stdout, 0, false, false, true⟩,
    ⟨.stderr, 0, false, false, true⟩]
  pipes := [[]]
  stdout := []
  stderr := []
  clock := ⟨0, 0⟩
  elapsed := 0
  nextProcess := firstProcess + 1
  running := [firstProcess]
  signals := []
  lingers := lingers

/-- Lets time pass, in nanoseconds. -/
def wait (w : World) (nanos : Nat) : World := { w with elapsed := w.elapsed + nanos }

/-- A new process: its number, and the world with it. -/
def addProcess (w : World) : Nat × World :=
  let n := w.nextProcess
  (n, { w with nextProcess := n + 1, running := n :: w.running })

/-- A process has ended. -/
def endProcess (w : World) (process : Nat) : World :=
  { w with running := w.running.filter (· ≠ process) }

/-! ## Streams -/

/-- The opening that a number means: its place among the openings, and itself. -/
def opening? (w : World) (io : Streams) (stream : Nat) : Option (Nat × Opening) := do
  let k ← io.lookup stream
  let o ← w.openings[k]?
  some (k, o)

/-- Bytes of a file with others written over them from a place on; a gap before the place is filled with
zeros. -/
def overwritten (old new : Bytes) (place : Nat) : Bytes :=
  old.take place ++ List.replicate (place - old.length) 0 ++ new ++ old.drop (place + new.length)

/-- Writes bytes to a stream. -/
def put (w : World) (io : Streams) (stream : Nat) (bytes : Bytes) : Except Fault World :=
  match w.opening? io stream with
  | none => .error .notOpen
  | some (k, o) =>
    if !o.writes then .error .notOpen
    else match o.channel with
      | .stdout => .ok { w with stdout := w.stdout ++ bytes }
      | .stderr => .ok { w with stderr := w.stderr ++ bytes }
      | .pipe n => .ok { w with pipes := w.pipes.modify n (· ++ bytes) }
      | .node i =>
        match w.files.node? i with
        | some (.file old _) =>
          let place := if o.appends then old.length else o.place
          .ok { w with
            files := w.files.modify i fun old => overwritten old bytes place
            openings := w.openings.set k { o with place := place + bytes.length } }
        | some (.device .full) => if bytes.isEmpty then .ok w else .error .noSpace
        | _ => .ok w

/-- Writes octets to a stream, if they are taken. -/
def say (w : World) (io : Streams) (stream : Nat) (o : Octets) : World :=
  match w.put io stream o.toBytes with
  | .ok w => w
  | .error _ => w

/-- A stream as the tool finds it; one that is not there is not missed. -/
def streamOf (w : World) (io : Streams) (stream : Nat) : Stream :=
  match w.opening? io stream with
  | some (_, ⟨.node i, _, _, _, _⟩) => ⟨false, if w.files.node? i = some (.device .full) then some 0 else none⟩
  | _ => .pipe

/-- What can be read from a stream. -/
def available (w : World) (io : Streams) (stream : Nat) : Except Fault Bytes :=
  match w.opening? io stream with
  | none => .error .notOpen
  | some (_, o) =>
    if !o.reads then .error .notOpen
    else match o.channel with
      | .stdout | .stderr => .ok []
      | .pipe n => .ok ((w.pipes[n]?).getD [])
      | .node i =>
        match w.files.node? i with
        | some (.file bytes _) => .ok (bytes.drop o.place)
        | some (.directory ..) => .error .isDirectory
        | _ => .ok []

/-- Takes bytes from the start of what can be read from a stream. -/
def consume (w : World) (io : Streams) (stream count : Nat) : World :=
  match w.opening? io stream with
  | some (k, o) =>
    match o.channel with
    | .pipe n => { w with pipes := w.pipes.modify n (·.drop count) }
    | .node _ => { w with openings := w.openings.set k { o with place := o.place + count } }
    | _ => w
  | none => w

/-- Reads all that is left of a stream. -/
def drain (w : World) (io : Streams) (stream : Nat) : Except Fault (Bytes × World) :=
  (w.available io stream).map fun bytes => (bytes, w.consume io stream bytes.length)

/-- One more opening: its number, and the world with it. -/
def addOpening (w : World) (o : Opening) : Nat × World :=
  (w.openings.length, { w with openings := w.openings ++ [o] })

/-- A new pipe that holds bytes: the openings of its two ends, for reading and for writing. -/
def addPipe (w : World) (bytes : Bytes) : Nat × Nat × World :=
  let n := w.pipes.length
  let (reading, w) := { w with pipes := w.pipes ++ [bytes] }.addOpening ⟨.pipe n, 0, false, true, false⟩
  let (writing, w) := w.addOpening ⟨.pipe n, 0, false, false, true⟩
  (reading, writing, w)

/-- What has been written to the pipe of an opening and not yet read. -/
def pipeContents (w : World) (opening : Nat) : Bytes :=
  match w.openings[opening]? with
  | some ⟨.pipe n, _, _, _, _⟩ => (w.pipes[n]?).getD []
  | _ => []

/-! ## Files -/

/-- The place of the node that a path leads to. -/
def find (w : World) (path : Octets) : Except Fault Nat := w.files.find path.toText

/-- The node that a path leads to. -/
def nodeOf? (w : World) (path : Octets) : Option Node :=
  match w.find path with
  | .ok i => w.files.node? i
  | .error _ => none

/-- The node that a path leads to, where a link at the end is not followed. -/
def ownNodeOf? (w : World) (path : Octets) : Option Node :=
  match w.files.locate .own path.toText with
  | .ok (.node i) => w.files.node? i
  | _ => none

/-- The absolute path of a directory, as far up as a number of steps goes. -/
def pathUpwards (w : World) : Nat → Nat → Octets
  | 0, _ => []
  | fuel + 1, i =>
    let above := w.files.parent i
    if above = i then []
    else
      let name := ((w.files.entries above).find? (·.2 = i)).map (·.1)
      pathUpwards w fuel above ++ '/' :: Octets.ofText (name.getD [])

/-- The absolute path of a directory. -/
def pathOf (w : World) (i : Nat) : Octets :=
  match w.pathUpwards w.files.nodes.length i with
  | [] => ['/']
  | path => path

/-- The directory of a path and the name in it, whether or not the name is taken. -/
def siteOf (w : World) (path : Octets) : Except Fault (Nat × Text) :=
  let path := path.toText
  match (Files.Path.names path).getLast? with
  | none => .error (if path = [] then .notFound else .isDirectory)
  | some name => do
    let base := if Files.Path.isAbsolute path then Store.root else w.files.here
    let steps := (Files.Path.names path).dropLast ++ [['.']]
    match ← w.files.walk .use Store.linkLimit base steps with
    | .node i => if Store.nameLimit < name.toUtf8.length then .error .nameTooLong else .ok (i, name)
    | .vacant .. => .error .notFound

/-- The node under a name of a directory, where links are not followed. -/
def nodeAt (w : World) (site : Nat × Text) : Option Node :=
  (w.files.entry? site.1 site.2).bind w.files.node?

/-- Puts a new node under a path, in place of what stands there unless that is a directory. -/
def place (w : World) (path : Octets) (n : Node) : Except Fault World := do
  let site ← w.siteOf path
  match w.nodeAt site with
  | some (.directory ..) => .error .isDirectory
  | _ => .ok { w with files := ((w.files.remove site.1 site.2).insert site.1 site.2 n).2 }

/-- Takes the name of a path out of its directory. -/
def unlink (w : World) (path : Octets) : Except Fault World := do
  let site ← w.siteOf path
  match w.nodeAt site with
  | none => .error .notFound
  | some _ => .ok { w with files := w.files.remove site.1 site.2 }

/-- Makes a directory under a free name. -/
def makeDirectory (w : World) (path : Octets) : Except Fault World := do
  let site ← w.siteOf path
  match w.nodeAt site with
  | none => .ok { w with files := (w.files.insert site.1 site.2 (.directory site.1 [])).2 }
  | some _ => .error .nameTaken

/-- The bytes of a file. -/
def read (w : World) (path : Octets) : Except Fault Bytes := do
  let i ← w.find path
  match w.files.node? i with
  | some (.file bytes _) => .ok bytes
  | some (.directory ..) => .error .isDirectory
  | _ => .ok []

/-- What a path is opened for. -/
inductive Access where
  | read
  /-- For writing, where the file is emptied first. -/
  | write
  | append
  /-- For reading and writing. -/
  | update
  deriving DecidableEq, Repr

/-- Opens a path: the number of the opening. -/
def openPath (w : World) (path : Octets) (access : Access) : Except Fault (Nat × World) :=
  match access with
  | .read => do
    let i ← w.find path
    if w.files.node? i = some (.device .terminal) then .error .noDevice
    else .ok (w.addOpening ⟨.node i, 0, false, true, false⟩)
  | .write => do
    let (i, files) ← w.files.openForWriting path.toText
    .ok ({ w with files }.addOpening ⟨.node i, 0, false, false, true⟩)
  | .append => do
    let (i, files) ← w.files.make path.toText
    .ok ({ w with files }.addOpening ⟨.node i, 0, true, false, true⟩)
  | .update => do
    let (i, files) ← w.files.make path.toText
    .ok ({ w with files }.addOpening ⟨.node i, 0, false, true, true⟩)

end World

end ProgramTrace.Host
