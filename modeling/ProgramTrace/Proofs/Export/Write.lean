import ProgramTrace.Proofs.Export.Sink
import ProgramTrace.Proofs.Files.Blank
import ProgramTrace.Proofs.Files.Sound

/-!
# `ProgramTrace.Proofs.Export.Write` — one export, and all that it changes.

A write ends in one of three ways (`Write`): its path is refused, the device refuses, or everything has
arrived.  In each it extends the store it is given (`extends_write`), and of what was there before it
changes only the file to which its path leads (`contents?_write`), and every other path leads where it led
(`find_write`).  After a write that succeeds, what its path denotes holds the complete form of the session, if it is
a file (`contents?_of_write_eq_ok`).  Whether a write succeeds is decided by the path and by the store, and neither
by the session nor by what files hold (`write_eq_attempt`).
-/

namespace ProgramTrace.Export

open Files (Device Node Store)

variable {files made : Store} {session : Session} {format : Format} {path : Text}

/-! ## How a write ends -/

/-- The ways in which a write ends: what comes of it, and the files after it. -/
inductive Write (files : Store) (session : Session) (format : Format) (path : Text) :
    Except Failure Unit × Store → Prop
  /-- The path cannot be opened. -/
  | refused {e : Files.Fault} (opened : files.make path = .error e) :
      Write files session format path (.error (.io e), files)
  /-- The device that is written to refuses. -/
  | broken {i : Nat} {made : Store} {e : Failure} (opened : files.make path = .ok (i, made))
      (emitted : emit (deviceAt (made.modify i fun _ => []) i) session format = .error e) :
      Write files session format path (.error e, made.modify i fun _ => [])
  /-- All has arrived. -/
  | done {i : Nat} {made : Store} {bytes : Bytes} (opened : files.make path = .ok (i, made))
      (emitted : emit (deviceAt (made.modify i fun _ => []) i) session format = .ok bytes) :
      Write files session format path (.ok (), (made.modify i fun _ => []).modify i fun _ => bytes)

theorem write_cases (files : Store) (session : Session) (format : Format) (path : Text) :
    Write files session format path (write files session format path) := by
  unfold write Store.openForWriting
  cases opened : files.make path with
  | error e => exact .refused opened
  | ok a =>
    obtain ⟨i, made⟩ := a
    simp only [Except.map]
    cases emitted : emit (deviceAt (made.modify i fun _ => []) i) session format with
    | error e => exact .broken opened emitted
    | ok bytes => exact .done opened emitted

/-- Only the XML form can be refused as a document; every other failure is one of input or output. -/
theorem failure_of_emit {device : Option Device} {e : Failure} (h : emit device session format = .error e) :
    ∃ cause, e = .io cause ∨ format = .xml ∧ e = .document cause := by
  cases format with
  | csv =>
    simp only [emit] at h
    split at h
    · exact ⟨_, .inl (Except.error.inj h).symm⟩
    · split at h
      · exact ⟨_, .inl (Except.error.inj h).symm⟩
      · cases h
  | xml =>
    simp only [emit] at h
    split at h
    · exact ⟨_, .inr ⟨rfl, (Except.error.inj h).symm⟩⟩
    · split at h
      · exact ⟨_, .inl (Except.error.inj h).symm⟩
      · split at h
        · exact ⟨_, .inl (Except.error.inj h).symm⟩
        · cases h

/-- What a write that fails fails with. -/
theorem failure_of_write {e : Failure} (h : (write files session format path).1 = .error e) :
    ∃ cause, e = .io cause ∨ format = .xml ∧ e = .document cause := by
  have ends := write_cases files session format path
  generalize write files session format path = w at ends h
  cases ends with
  | refused => exact ⟨_, .inl (Except.error.inj h).symm⟩
  | broken _ emitted =>
    obtain rfl := Except.error.inj h
    exact failure_of_emit emitted
  | done => cases h

/-! ## What a write changes -/

/-- A write extends the files. -/
theorem extends_write (files : Store) (session : Session) (format : Format) (path : Text) :
    files.Extends (write files session format path).2 := by
  have ends := write_cases files session format path
  generalize write files session format path = w at ends ⊢
  cases ends with
  | refused => exact .refl files
  | broken opened _ => exact (Store.extends_make opened).trans (Store.extends_modify ..)
  | done opened _ =>
    exact (Store.extends_make opened).trans ((Store.extends_modify ..).trans (Store.extends_modify ..))

/-- **A write changes no file but its own**, whatever comes of it. -/
theorem contents?_write {j : Nat} {n : Node} (old : files.node? j = some n)
    (other : (write files session format path).2.find path ≠ .ok j) :
    (write files session format path).2.contents? j = files.contents? j := by
  have ends := write_cases files session format path
  generalize write files session format path = w at ends other ⊢
  cases ends with
  | refused => rfl
  | @broken i made e opened emitted =>
    -- A path that has opened `j` leads there from then on.
    have ne : i ≠ j := fun same =>
      other (Store.find_of_make_old (same ▸ opened) (Store.extends_modify ..) old)
    rw [Store.contents?_modify, if_neg ne]
    exact Store.contents?_make opened old
  | @done i made bytes opened emitted =>
    have ne : i ≠ j := fun same =>
      other (Store.find_of_make_old (same ▸ opened)
        ((Store.extends_modify ..).trans (Store.extends_modify ..)) old)
    rw [Store.contents?_modify, if_neg ne, Store.contents?_modify, if_neg ne]
    exact Store.contents?_make opened old

/-- **A path that leads to something new after a write leads to what the write has opened.** -/
theorem find_write {q : Text} {j : Nat} (sound : files.Sound)
    (found : (write files session format path).2.find q = .ok j) :
    files.find q = .ok j ∨ (write files session format path).2.find path = .ok j := by
  have extended := extends_write files session format path
  obtain old | ⟨d, name, free, taken⟩ := Store.find_since extended sound found
  · exact .inl old
  · right
    have ends := write_cases files session format path
    generalize write files session format path = w at ends taken ⊢
    cases ends with
    | refused => exact absurd (free.symm.trans taken) (by simp)
    | broken opened _ =>
      rw [Store.entry?_modify] at taken
      exact Store.find_of_make_new opened (Store.extends_modify ..) free taken
    | done opened _ =>
      rw [Store.entry?_modify, Store.entry?_modify] at taken
      exact Store.find_of_make_new opened ((Store.extends_modify ..).trans (Store.extends_modify ..)) free taken

/-! ## What a write that succeeds has written -/

/-- What holds contents is written to like the full device, or takes everything. -/
theorem deviceAt_of_contents? {i : Nat} {bytes : Bytes} (h : files.contents? i = some bytes) :
    deviceAt files i = if i ∈ files.full then some .full else none := by
  unfold Store.contents? at h
  unfold deviceAt
  split at h
  · rename_i node
    simp only [node]
  · cases h

/-- A file receives the whole document, if the write to it succeeds. -/
theorem eq_render_of_emit_file {i : Nat} {old bytes : Bytes} (file : files.contents? i = some old)
    (emitted : emit (deviceAt files i) session format = .ok bytes) :
    bytes = (render format session).toUtf8 := by
  rw [deviceAt_of_contents? file] at emitted
  split at emitted
  · obtain ⟨e, refused⟩ := exists_emit_full session format
    rw [refused] at emitted
    cases emitted
  · rw [emit_eq_render (by simp)] at emitted
    exact (Except.ok.inj emitted).symm

/-- What a write has opened, if it has succeeded, and what is there then. -/
theorem contents?_of_write_eq_ok (h : (write files session format path).1 = .ok ()) :
    ∃ i made, files.make path = .ok (i, made) ∧ made.Extends (write files session format path).2 ∧
      ∀ bytes, (write files session format path).2.contents? i = some bytes →
        bytes = (render format session).toUtf8 := by
  have ends := write_cases files session format path
  generalize write files session format path = w at ends h ⊢
  cases ends with
  | refused => cases h
  | broken => cases h
  | @done i made sent opened emitted =>
    refine ⟨i, made, opened, (Store.extends_modify ..).trans (Store.extends_modify ..), ?_⟩
    intro bytes held
    rw [Store.contents?_modify, if_pos rfl, Option.map_eq_some_iff] at held
    obtain ⟨before, empty, rfl⟩ := held
    exact eq_render_of_emit_file empty emitted

/-- After a write that succeeds it is settled which device its path leads to, if to one. -/
theorem device?_of_write_eq_ok (h : (write files session format path).1 = .ok ()) {left : Store}
    (more : (write files session format path).2.Extends left) :
    left.device? path = (write files session format path).2.device? path := by
  obtain ⟨i, made, opened, extended, -⟩ := contents?_of_write_eq_ok h
  apply Option.ext
  intro d
  exact ⟨Store.device?_of_make opened extended more, Store.device?_extends more⟩

/-! ## What decides whether a write succeeds -/

/-- Writing succeeds wherever the device is not full, whatever is written. -/
theorem isOk_emit (device : Option Device) (session : Session) (format : Format) :
    (emit device session format).isOk = decide (device ≠ some .full) := by
  by_cases full : device = some .full
  · obtain ⟨e, refused⟩ := exists_emit_full session format
    rw [full, refused]
    rfl
  · rw [emit_eq_render full, decide_eq_true full]
    rfl

theorem deviceAt_blank (files : Store) (i : Nat) : deviceAt files.blank i = deviceAt files i := by
  unfold deviceAt
  rw [Store.node?_blank]
  cases files.node? i with
  | none => rfl
  | some n => cases n <;> rfl

/-- What is written to a file is no reason to take no more. -/
theorem deviceAt_modify (files : Store) (i j : Nat) (f : Bytes → Bytes) :
    deviceAt (files.modify i f) j = deviceAt files j := by
  rw [← deviceAt_blank, Store.blank_modify, deviceAt_blank]

/-- Whether a write to a path succeeds, and the files after it, contents apart. -/
def attempt (files : Store) (path : Text) : Bool × Store :=
  match files.make path with
  | .error _ => (false, files)
  | .ok (i, made) => (decide (deviceAt made i ≠ some .full), made)

/-- **The session and the contents of files do not decide whether a write succeeds.** -/
theorem write_eq_attempt (files : Store) (session : Session) (format : Format) (path : Text) :
    ((write files session format path).1.isOk, (write files session format path).2.blank) =
      attempt files.blank path := by
  have ends := write_cases files session format path
  generalize write files session format path = w at ends ⊢
  cases ends with
  | refused opened =>
    simp only [attempt, Store.make_blank, opened, Except.map]
    rfl
  | @broken i made e opened emitted =>
    have ok := isOk_emit (deviceAt (made.modify i fun _ => []) i) session format
    rw [emitted, deviceAt_modify] at ok
    simp only [attempt, Store.make_blank, opened, Except.map, deviceAt_blank, Store.blank_modify, ← ok]
    rfl
  | @done i made bytes opened emitted =>
    have ok := isOk_emit (deviceAt (made.modify i fun _ => []) i) session format
    rw [emitted, deviceAt_modify] at ok
    simp only [attempt, Store.make_blank, opened, Except.map, deviceAt_blank, Store.blank_modify, ← ok]
    rfl

end ProgramTrace.Export
