import ProgramTrace.Export.Csv
import ProgramTrace.Export.Xml
import ProgramTrace.Failure
import ProgramTrace.Files.Store

/-!
# `ProgramTrace.Export.Write` — writing a session to a path.

The file is opened, which empties it or makes it, and then the form of the session goes through a buffer
to what the path denotes.  A path that cannot be opened leaves every file as it was; a file that can be
opened but has no room stays empty.

Pieces are held back in the buffer and passed on when it would overflow, or at the end.  A piece that the
space left cannot take empties the buffer first; one that fills it exactly does not; one as long as the
whole buffer goes past it.
-/

namespace ProgramTrace.Export

open Files (Device Fault Store)

/-! ## Buffers -/

def bufferSize : Nat := 8192

/-- A buffer: what it holds, and what has been passed on before. -/
structure Buffer where
  held : Bytes
  passed : Bytes
  deriving DecidableEq, Repr

namespace Buffer

def empty : Buffer := ⟨[], []⟩

/-- Passes bytes on.  A full device takes no byte; everything else takes them all. -/
def pass (device : Option Device) (b : Buffer) (bytes : Bytes) : Except Fault Buffer :=
  if device = some .full ∧ bytes ≠ [] then .error .noSpace
  else .ok { b with passed := b.passed ++ bytes }

def flush (device : Option Device) (b : Buffer) : Except Fault Buffer := do
  let b ← b.pass device b.held
  .ok { b with held := [] }

def write (device : Option Device) (b : Buffer) (piece : Bytes) : Except Fault Buffer := do
  let b ← if bufferSize < b.held.length + piece.length then b.flush device else .ok b
  if bufferSize ≤ piece.length then b.pass device piece
  else .ok { b with held := b.held ++ piece }

/-- Writes pieces in order, up to the first refusal. -/
def writeAll (device : Option Device) (b : Buffer) : List Bytes → Except Fault Buffer
  | [] => .ok b
  | p :: ps => do
    let b ← b.write device p
    b.writeAll device ps

end Buffer

/-! ## Sessions -/

def render : Format → Session → Text
  | .csv => Csv.document
  | .xml => Xml.document

/-- Writes the pieces of a session to an opened device or file: the bytes that have arrived there. -/
def emit (device : Option Device) (session : Session) : Format → Except Failure Bytes
  | .csv =>
    match Buffer.empty.writeAll device ((Csv.pieces session).map Text.toUtf8) with
    | .error e => .error (.io e)
    | .ok b =>
      match b.flush device with
      | .error e => .error (.io e)
      | .ok b => .ok b.passed
  | .xml =>
    match Buffer.empty.writeAll device ((Xml.pieces session).map Text.toUtf8) with
    | .error e => .error (.document e)
    | .ok b =>
      match b.writeAll device [Text.toUtf8 ['\n']] with
      | .error e => .error (.io e)
      | .ok b =>
        match b.flush device with
        | .error e => .error (.io e)
        | .ok b => .ok b.passed

/-- The device at a place, if there is one.  A file where there is no room is written to like the full
device. -/
def deviceAt (files : Store) (i : Nat) : Option Device :=
  match files.node? i with
  | some (.device d) => some d
  | some (.file ..) => if i ∈ files.full then some .full else none
  | _ => none

/-- Writes a session to a path: what comes of it, and the files after it. -/
def write (files : Store) (session : Session) (format : Format) (path : Text) :
    Except Failure Unit × Store :=
  match files.openForWriting path with
  | .error e => (.error (.io e), files)
  | .ok (i, opened) =>
    match emit (deviceAt opened i) session format with
    | .error e => (.error e, opened)
    | .ok bytes => (.ok (), opened.modify i fun _ => bytes)

/-- What a session that has been written to a path has added to standard output and standard error, to
which the path can lead. -/
def shown (files : Store) (session : Session) (format : Format) (path : Text) : Bytes × Bytes :=
  match files.device? path with
  | some .stdout => ((render format session).toUtf8, [])
  | some .stderr => ([], (render format session).toUtf8)
  | _ => ([], [])

end ProgramTrace.Export
