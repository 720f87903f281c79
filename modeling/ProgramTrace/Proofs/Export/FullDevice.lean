import ProgramTrace.Proofs.Export.Sink

/-!
# `ProgramTrace.Proofs.Export.FullDevice` — what a full device does to an export.

A full device takes no byte, so that an export to it stays in the buffer for as long as there is room, and fails at the
first byte that has to leave.  When that is decides what the failure is called: in XML it is one of the document while
the document is being written, and one of output afterwards.

The pieces of a document are of all lengths, and one that is as long as the buffer goes past it even where the buffer
could take it.  Yet the pieces do not matter: a buffer that holds a byte (`Buffer.Begun`) takes pieces exactly as
long as all that was written fits (`Buffer.writeAll_full`), and the first piece of either format is short and not empty.

* **`write_full_device`**: a write to a full device fails in both formats.  In CSV it fails as output; in XML it fails
  as a document exactly if the document without its last line feed is longer than the buffer.
-/

namespace ProgramTrace.Export

open Files (Device Store)

/-! ## Pieces before a full device -/

namespace Buffer

/-- A buffer that holds something, and no more than it has room for. -/
structure Begun (b : Buffer) : Prop where
  filled : b.held ≠ []
  fits : b.held.length ≤ bufferSize

variable {b : Buffer}

/-- Bytes that have to leave a buffer are refused. -/
theorem pass_full {bytes : Bytes} (filled : bytes ≠ []) :
    b.pass (some .full) bytes = .error .noSpace :=
  if_pos ⟨rfl, filled⟩

/-- What a buffer holds cannot leave it. -/
theorem flush_full (filled : b.held ≠ []) : b.flush (some .full) = .error .noSpace := by
  rw [flush, pass_full filled]
  rfl

/-- A buffer that holds something takes a piece exactly if there is room for it. -/
theorem write_full (begun : b.Begun) (piece : Bytes) :
    b.write (some .full) piece =
      if b.held.length + piece.length ≤ bufferSize then .ok { b with held := b.held ++ piece }
      else .error .noSpace := by
  have positive : 0 < b.held.length := List.length_pos_iff.mpr begun.filled
  unfold write
  by_cases room : b.held.length + piece.length ≤ bufferSize
  · -- There is a byte before the piece, so that the piece is shorter than the buffer.
    have stays : ¬bufferSize < b.held.length + piece.length := by omega
    have short : ¬bufferSize ≤ piece.length := by omega
    rw [if_pos room, if_neg stays]
    show (if bufferSize ≤ piece.length then _ else _) = _
    rw [if_neg short]
  · have spills : bufferSize < b.held.length + piece.length := by omega
    rw [if_neg room, if_pos spills, flush_full begun.filled]
    rfl

/-- A buffer that has room for a piece goes on with it. -/
theorem Begun.append (begun : b.Begun) {piece : Bytes}
    (room : b.held.length + piece.length ≤ bufferSize) :
    Begun { b with held := b.held ++ piece } := by
  refine ⟨?_, ?_⟩
  · exact List.append_ne_nil_of_left_ne_nil begun.filled piece
  · show (b.held ++ piece).length ≤ bufferSize
    rw [List.length_append]
    exact room

/-- **A buffer that holds something takes pieces exactly if there is room for all of them**, whatever their lengths. -/
theorem writeAll_full (begun : b.Begun) (pieces : List Bytes) :
    b.writeAll (some .full) pieces =
      if b.held.length + pieces.flatten.length ≤ bufferSize then
        .ok { b with held := b.held ++ pieces.flatten }
      else .error .noSpace := by
  -- By induction on the pieces, for every buffer that holds something: a piece that is taken leaves such a buffer.
  induction pieces generalizing b with
  | nil =>
    have room : b.held.length + ([] : List Bytes).flatten.length ≤ bufferSize := begun.fits
    rw [writeAll, if_pos room, List.flatten_nil, List.append_nil]
  | cons p ps ih =>
    have total : (p :: ps).flatten.length = p.length + ps.flatten.length := by
      rw [List.flatten_cons, List.length_append]
    rw [writeAll, write_full begun, total]
    by_cases room : b.held.length + p.length ≤ bufferSize
    · rw [if_pos room]
      show Buffer.writeAll _ { b with held := b.held ++ p } ps = _
      rw [ih (begun.append room), List.flatten_cons, List.length_append, List.append_assoc, Nat.add_assoc]
    · have exceeds : ¬b.held.length + (p.length + ps.flatten.length) ≤ bufferSize := by omega
      rw [if_neg room, if_neg exceeds]
      rfl

/-- An empty buffer takes a short piece. -/
theorem write_empty {device : Option Device} {p : Bytes} (short : p.length < bufferSize) :
    empty.write device p = .ok ⟨p, []⟩ := by
  have stays : ¬bufferSize < empty.held.length + p.length := by
    show ¬bufferSize < 0 + p.length
    omega
  have within : ¬bufferSize ≤ p.length := by omega
  rw [write, if_neg stays]
  show (if bufferSize ≤ p.length then _ else _) = _
  rw [if_neg within]
  rfl

/-- Pieces of which the first is short and not empty are taken exactly if there is room for all of them. -/
theorem writeAll_empty_full {p : Bytes} (filled : p ≠ []) (short : p.length < bufferSize)
    (ps : List Bytes) :
    empty.writeAll (some .full) (p :: ps) =
      if (p :: ps).flatten.length ≤ bufferSize then .ok ⟨(p :: ps).flatten, []⟩
      else .error .noSpace := by
  have begun : Begun ⟨p, []⟩ := ⟨filled, Nat.le_of_lt short⟩
  rw [writeAll, write_empty short]
  show Buffer.writeAll _ ⟨p, []⟩ ps = _
  rw [writeAll_full begun, List.flatten_cons, List.length_append]

end Buffer

/-! ## Documents before a full device -/

/-- The CSV form fails as output, whichever of its pieces is refused. -/
theorem emit_full_csv (session : Session) :
    emit (some .full) session .csv = .error (.io .noSpace) := by
  let first := Text.toUtf8 (Csv.record Csv.header)
  let rest := (Csv.pieces session).tail.map Text.toUtf8
  have written := Buffer.writeAll_empty_full (p := first) (by decide) (by decide) rest
  have pieces : (Csv.pieces session).map Text.toUtf8 = first :: rest := rfl
  rw [emit, pieces, written]
  by_cases room : (first :: rest).flatten.length ≤ bufferSize
  · -- Everything is held back, and does not leave the buffer at the end.
    have filled : (first :: rest).flatten ≠ [] := List.append_ne_nil_of_left_ne_nil (by decide) _
    have stuck : Buffer.flush (some .full) ⟨(first :: rest).flatten, []⟩ = .error .noSpace :=
      Buffer.flush_full filled
    rw [if_pos room]
    simp only [stuck]
  · rw [if_neg room]

/-- The XML form fails as a document exactly if there is no room for all that comes before its last line feed. -/
theorem emit_full_xml (session : Session) :
    emit (some .full) session .xml =
      .error (if bufferSize < (Text.toUtf8 (Xml.pieces session).flatten).length then .document .noSpace
        else .io .noSpace) := by
  let first := Text.toUtf8 ['<', '?']
  let rest := (Xml.pieces session).tail.map Text.toUtf8
  have written := Buffer.writeAll_empty_full (p := first) (by decide) (by decide) rest
  have pieces : (Xml.pieces session).map Text.toUtf8 = first :: rest := rfl
  rw [emit, ← flatten_map_toUtf8, pieces, written]
  by_cases room : (first :: rest).flatten.length ≤ bufferSize
  · have within : ¬bufferSize < (first :: rest).flatten.length := by omega
    have filled : (first :: rest).flatten ≠ [] := List.append_ne_nil_of_left_ne_nil (by decide) _
    have begun : Buffer.Begun ⟨(first :: rest).flatten, []⟩ := ⟨filled, room⟩
    rw [if_pos room, if_neg within]
    simp only [Buffer.writeAll_full begun]
    -- The last line feed fits or does not; the failure is one of output either way.
    split
    · rename_i refused
      split at refused
      · cases refused
      · rw [← Except.error.inj refused]
    · rename_i taken
      split at taken
      · rw [← Except.ok.inj taken]
        simp only [Buffer.flush_full (b := ⟨_, []⟩) (List.append_ne_nil_of_left_ne_nil filled _)]
      · cases taken
  · have exceeds : bufferSize < (first :: rest).flatten.length := by omega
    rw [if_neg room, if_pos exceeds]

/-! ## Writes to a full device -/

variable {files opened : Store} {path : Text} {i : Nat}

/-- A write to a path that can be opened ends as what is emitted there does, if that fails. -/
theorem write_of_emit_error {session : Session} {format : Format} {e : Failure}
    (opens : files.openForWriting path = .ok (i, opened))
    (refused : emit (deviceAt opened i) session format = .error e) :
    write files session format path = (.error e, opened) := by
  simp only [write, opens, refused]

/-- **A write to a full device fails, and the length of the document decides how.**  In CSV it fails as output.  In XML
it fails as a document if the document without its last line feed is longer than 8192 bytes, and as output otherwise. -/
theorem write_full_device (opens : files.openForWriting path = .ok (i, opened))
    (full : deviceAt opened i = some .full) (session : Session) :
    write files session .csv path = (.error (.io .noSpace), opened) ∧
      write files session .xml path =
        (.error (if 8192 < (Text.toUtf8 (render .xml session).dropLast).length then .document .noSpace
          else .io .noSpace), opened) := by
  have document : (render .xml session).dropLast = (Xml.pieces session).flatten := List.dropLast_concat
  refine ⟨?_, ?_⟩
  · exact write_of_emit_error opens (full ▸ emit_full_csv session)
  · rw [document]
    exact write_of_emit_error opens (full ▸ emit_full_xml session)

/-- A directory with the full device in it. -/
def deviceShelf : Store := { nodes := [.directory 0 [(['f'], 1)], .device .full], here := 0 }

/-- What is recorded of a program with one argument. -/
def sessionOf (argument : Text) : Session := ⟨['p'], [argument], ⟨0, 0⟩, ⟨0, 0⟩, some 0⟩

/-- A short document is held back to its end, and one with an argument of 2048 characters, four bytes each, is not. -/
theorem write_full_device_short_and_long :
    deviceShelf.openForWriting ['f'] = .ok (1, deviceShelf) ∧ deviceAt deviceShelf 1 = some .full ∧
      write deviceShelf (sessionOf ['a']) .xml ['f'] = (.error (.io .noSpace), deviceShelf) ∧
      write deviceShelf (sessionOf (List.replicate 2048 '🦀')) .xml ['f'] =
        (.error (.document .noSpace), deviceShelf) := by
  have opens : deviceShelf.openForWriting ['f'] = .ok (1, deviceShelf) := by rfl
  have full : deviceAt deviceShelf 1 = some .full := by rfl
  obtain ⟨-, short⟩ := write_full_device opens full (sessionOf ['a'])
  obtain ⟨-, long⟩ := write_full_device opens full (sessionOf (List.replicate 2048 '🦀'))
  rw [if_neg (by decide +kernel)] at short
  rw [if_pos (by decide +kernel)] at long
  exact ⟨opens, full, short, long⟩

end ProgramTrace.Export
