import ProgramTrace.Export.Write

/-!
# `ProgramTrace.Proofs.Export.Sink` — what takes everything receives the whole document.

A buffer holds bytes back, so that what has arrived lags behind what was written.  The two together are
what was written (`Buffer.written`): no write that succeeds loses, repeats or moves a byte.  A sink that is
not a full device never refuses, so at the end the whole document has arrived there (`emit_eq_render`).  A full
device takes nothing, so what is written to it stays in the buffer, and as a document is not empty, the device
refuses at the end at the latest (`exists_emit_full`).
-/

namespace ProgramTrace.Export

open Files (Device)

/-! ## Single writes -/

namespace Buffer

/-- What has been written to a buffer: what it has passed on, and what it holds. -/
def written (b : Buffer) : Bytes := b.passed ++ b.held

variable {device : Option Device}

/-- A sink that is not full takes what is passed on. -/
theorem pass_eq_ok (h : device ≠ some .full) (b : Buffer) (bytes : Bytes) :
    b.pass device bytes = .ok { b with passed := b.passed ++ bytes } := by
  rw [pass, if_neg (fun hd => h hd.1)]

/-- Emptying a buffer passes on all that was written. -/
theorem flush_eq_ok (h : device ≠ some .full) (b : Buffer) :
    b.flush device = .ok ⟨[], b.written⟩ := by
  rw [flush, pass_eq_ok h]
  rfl

/-- One piece is written after what was written before. -/
theorem exists_write (h : device ≠ some .full) (b : Buffer) (piece : Bytes) :
    ∃ b', b.write device piece = .ok b' ∧ b'.written = b.written ++ piece := by
  -- A long piece goes past the buffer, which is empty then: it could not have held the piece.
  by_cases spills : bufferSize < b.held.length + piece.length
  · by_cases long : bufferSize ≤ piece.length
    · refine ⟨⟨[], b.written ++ piece⟩, ?_, by simp [written]⟩
      simp [write, spills, long, flush_eq_ok h, pass_eq_ok h, bind, Except.bind]
    · refine ⟨⟨piece, b.written⟩, ?_, by simp [written]⟩
      simp [write, spills, long, flush_eq_ok h, bind, Except.bind]
  · by_cases long : bufferSize ≤ piece.length
    · have empty : b.held = [] := by
        rw [← List.length_eq_zero_iff]
        omega
      refine ⟨⟨b.held, b.passed ++ piece⟩, ?_, by simp [written, empty]⟩
      simp [write, spills, long, pass_eq_ok h, bind, Except.bind]
    · refine ⟨⟨b.held ++ piece, b.passed⟩, ?_, by simp [written]⟩
      simp [write, spills, long, bind, Except.bind]

/-! ## Runs of writes -/

/-- Pieces are written one after the other. -/
theorem exists_writeAll (h : device ≠ some .full) (b : Buffer) (pieces : List Bytes) :
    ∃ b', b.writeAll device pieces = .ok b' ∧ b'.written = b.written ++ pieces.flatten := by
  induction pieces generalizing b with
  | nil => exact ⟨b, rfl, by simp⟩
  | cons p ps ih =>
    obtain ⟨b₁, h₁, w₁⟩ := exists_write h b p
    obtain ⟨b₂, h₂, w₂⟩ := ih b₁
    refine ⟨b₂, ?_, by rw [w₂, w₁, List.flatten_cons, List.append_assoc]⟩
    rw [writeAll, h₁]
    exact h₂

/-! ## A full device -/

/-- A full device takes nothing but nothing. -/
theorem eq_nil_of_pass {b b' : Buffer} {bytes : Bytes} (h : b.pass (some .full) bytes = .ok b') :
    bytes = [] := by
  unfold pass at h
  split at h
  case isTrue => cases h
  case isFalse refused => exact Decidable.not_not.mp fun some => refused ⟨rfl, some⟩

/-- A buffer before a full device can be emptied only if it is empty. -/
theorem held_of_flush {b b' : Buffer} (h : b.flush (some .full) = .ok b') : b.held = [] := by
  unfold flush at h
  cases passed : b.pass (some .full) b.held with
  | error e =>
    rw [passed] at h
    cases h
  | ok => exact eq_nil_of_pass passed

/-- What is written before a full device stays in the buffer, or the device refuses. -/
theorem held_of_write {b b' : Buffer} {piece : Bytes} (h : b.write (some .full) piece = .ok b') :
    b'.held = b.held ++ piece := by
  have positive : 0 < bufferSize := by decide
  -- A long piece goes past the buffer, and one that makes the buffer spill is long, as the buffer has to be empty.
  have refused : ∀ c : Buffer, bufferSize ≤ piece.length → c.pass (some .full) piece ≠ .ok b' := by
    intro c long passed
    rw [eq_nil_of_pass passed, List.length_nil] at long
    omega
  by_cases spills : bufferSize < b.held.length + piece.length
  · cases flushed : b.flush (some .full) with
    | error e => simp [write, spills, flushed, bind, Except.bind] at h
    | ok c =>
      have empty := held_of_flush flushed
      have long : bufferSize ≤ piece.length := by
        rw [empty, List.length_nil] at spills
        omega
      simp only [write, if_pos spills, flushed, bind, Except.bind, if_pos long] at h
      exact absurd h (refused c long)
  · by_cases long : bufferSize ≤ piece.length
    · simp only [write, if_neg spills, bind, Except.bind, if_pos long] at h
      exact absurd h (refused b long)
    · simp only [write, if_neg spills, bind, Except.bind, if_neg long] at h
      exact congrArg held (Except.ok.inj h).symm

/-- What is written in pieces before a full device stays in the buffer, or the device refuses. -/
theorem held_of_writeAll {b b' : Buffer} {pieces : List Bytes}
    (h : b.writeAll (some .full) pieces = .ok b') : b'.held = b.held ++ pieces.flatten := by
  induction pieces generalizing b with
  | nil =>
    rw [writeAll] at h
    rw [← Except.ok.inj h, List.flatten_nil, List.append_nil]
  | cons p ps ih =>
    rw [writeAll] at h
    cases one : b.write (some .full) p with
    | error e =>
      rw [one] at h
      cases h
    | ok c =>
      rw [one] at h
      rw [ih h, held_of_write one, List.flatten_cons, List.append_assoc]

end Buffer

/-! ## Documents -/

/-- The encoding of pieces is the encoding of what they make up. -/
theorem flatten_map_toUtf8 (pieces : List Text) :
    (pieces.map Text.toUtf8).flatten = Text.toUtf8 pieces.flatten := by
  induction pieces with
  | nil => rfl
  | cons p ps ih => rw [List.map_cons, List.flatten_cons, List.flatten_cons, Text.toUtf8_append, ih]

/-- A document arrives whole wherever the sink is not full. -/
theorem emit_eq_render {device : Option Device} (h : device ≠ some .full) (session : Session)
    (format : Format) : emit device session format = .ok (Text.toUtf8 (render format session)) := by
  cases format with
  | csv =>
    obtain ⟨b, hb, wb⟩ :=
      Buffer.exists_writeAll h .empty ((Csv.pieces session).map Text.toUtf8)
    simp only [emit, hb, Buffer.flush_eq_ok h, wb, flatten_map_toUtf8]
    rfl
  | xml =>
    obtain ⟨b, hb, wb⟩ :=
      Buffer.exists_writeAll h .empty ((Xml.pieces session).map Text.toUtf8)
    obtain ⟨b', hb', wb'⟩ := Buffer.exists_writeAll h b [Text.toUtf8 ['\n']]
    simp only [emit, hb, hb', Buffer.flush_eq_ok h, wb', wb, flatten_map_toUtf8, render, Xml.document,
      Text.toUtf8_append]
    rfl

/-- A full device refuses every document. -/
theorem exists_emit_full (session : Session) (format : Format) :
    ∃ e, emit (some .full) session format = .error e := by
  cases format with
  | csv =>
    simp only [emit]
    split
    · exact ⟨_, rfl⟩
    · rename_i b written
      split
      · exact ⟨_, rfl⟩
      · rename_i flushed
        -- The buffer holds the whole document, which begins with the name of a column.
        have empty := Buffer.held_of_flush flushed
        rw [Buffer.held_of_writeAll written] at empty
        cases empty
  | xml =>
    simp only [emit]
    split
    · exact ⟨_, rfl⟩
    · split
      · exact ⟨_, rfl⟩
      · rename_i b' written
        split
        · exact ⟨_, rfl⟩
        · rename_i flushed
          have empty := Buffer.held_of_flush flushed
          rw [Buffer.held_of_writeAll written, List.append_eq_nil_iff] at empty
          exact absurd empty.2 (by decide)

end ProgramTrace.Export
