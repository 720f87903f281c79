import ProgramTrace.Proofs.Delivery

/-!
# `ProgramTrace.Proofs.Aftermath` — what a run leaves behind, whatever comes of it.

A run can end early: the program cannot be launched, or an export fails, and then nothing after it is done.
`Run.Aftermath` says what holds of the files in each case.  An export that fails is named by the result; the
targets before it hold what was delivered, and the one after it is untouched.  Whatever comes of the run, every
path shows what it showed when the program had ended, unless it denotes the file of a target
(`Run.fileAt?_deliver`).  This last takes a store in which every name leads to something, as it is about paths and
not about nodes.

* **`aftermath_of_run`**: a launch that fails leaves every file as it was, and a launch that succeeds is followed by
  an `Aftermath`.  Whether the run succeeds is decided by the files that the program leaves, never by how it ended.
-/

namespace ProgramTrace

open Export (Format render write)
open Files (Fault Node Store)

/-! ## Paths that show what they showed -/

/-- A write leaves what every other path shows. -/
theorem Export.fileAt?_write {files : Store} {session : Session} {format : Format} {path q : Text}
    (sound : files.Sound) (other : ¬(write files session format path).2.sameFile path q) :
    (write files session format path).2.fileAt? q = files.fileAt? q := by
  have apart : ∀ j, (write files session format path).2.find q = .ok j →
      (write files session format path).2.find path ≠ .ok j := by
    intro j found target
    exact other (Store.sameFile_iff.mpr ⟨j, target, found⟩)
  apply Store.fileAt?_of_extends (extends_write ..) sound
  · intro j found
    obtain old | target := find_write sound found
    · exact old
    · exact absurd target (apart j found)
  · intro j n found node
    exact contents?_write node (apart j found)

namespace Run

variable {time : Instant} {session : Session} {files : Store} {format : Format} {path q : Text}
  {targets rest : List (Format × Text)}

/-- A path that leads to something new after a delivery leads to the file of a target. -/
theorem find_deliver {j : Nat} (sound : files.Sound)
    (found : (deliver time session targets files).files.find q = .ok j) :
    files.find q = .ok j ∨
      ∃ x ∈ targets, (deliver time session targets files).files.find x.2 = .ok j := by
  induction targets generalizing files with
  | nil => exact .inl found
  | cons target rest ih =>
    obtain ⟨format, path⟩ := target
    have extended := Export.extends_write files session format path
    cases hw : (write files session format path).1 with
    | error e =>
      rw [deliver_cons_error hw] at found ⊢
      obtain old | target := Export.find_write sound found
      · exact .inl old
      · exact .inr ⟨(format, path), List.mem_cons_self .., target⟩
    | ok =>
      rw [deliver_cons_ok hw] at found ⊢
      obtain old | ⟨x, mem, target⟩ := ih (extended.sound sound) found
      · obtain old | target := Export.find_write sound old
        · exact .inl old
        · exact .inr ⟨(format, path), List.mem_cons_self .., Store.find_extends (extends_deliver ..) target⟩
      · exact .inr ⟨x, List.mem_cons_of_mem _ mem, target⟩

/-- **A delivery leaves what every path shows that denotes no target's file**, whatever comes of it. -/
theorem fileAt?_deliver (sound : files.Sound)
    (other : ∀ x ∈ targets, ¬(deliver time session targets files).files.sameFile x.2 q) :
    (deliver time session targets files).files.fileAt? q = files.fileAt? q := by
  have apart : ∀ j, (deliver time session targets files).files.find q = .ok j →
      ∀ x ∈ targets, (deliver time session targets files).files.find x.2 ≠ .ok j := by
    intro j found x mem target
    exact other x mem (Store.sameFile_iff.mpr ⟨j, target, found⟩)
  apply Store.fileAt?_of_extends (extends_deliver ..) sound
  · intro j found
    obtain old | ⟨x, mem, target⟩ := find_deliver sound found
    · exact old
    · exact absurd target (apart j found x mem)
  · intro j n found node
    exact contents?_deliver node (apart j found)

/-! ## What decides whether a delivery succeeds -/

/-- **Whether a delivery succeeds is decided by its targets and by the files, contents apart**: not by the session,
nor by the time. -/
theorem isOk_deliver {time' : Instant} {session' : Session} {files' : Store} (same : files.blank = files'.blank) :
    (deliver time session targets files).result.isOk =
      (deliver time' session' targets files').result.isOk := by
  induction targets generalizing files files' with
  | nil => rfl
  | cons target rest ih =>
    obtain ⟨format, path⟩ := target
    have attempts : ((write files session format path).1.isOk, (write files session format path).2.blank) =
        ((write files' session' format path).1.isOk, (write files' session' format path).2.blank) := by
      rw [Export.write_eq_attempt, Export.write_eq_attempt, same]
    obtain ⟨ok, after⟩ := Prod.mk.inj attempts
    cases hw : (write files session format path).1 with
    | error e =>
      cases hw' : (write files' session' format path).1 with
      | error e' =>
        rw [deliver_cons_error hw, deliver_cons_error hw']
        rfl
      | ok =>
        rw [hw, hw'] at ok
        cases ok
    | ok =>
      cases hw' : (write files' session' format path).1 with
      | error e' =>
        rw [hw, hw'] at ok
        cases ok
      | ok =>
        rw [deliver_cons_ok hw, deliver_cons_ok hw']
        exact ih after

/-! ## The two exports of a request -/

/-- One export of a request, if it is asked for: what comes of it, and the files after it. -/
def stage (r : Request) (session : Session) (format : Format) (files : Store) :
    Except Failure Unit × Store :=
  match r.path? format with
  | none => (.ok (), files)
  | some path => write files session format path

/-- The target of a format, if it is asked for. -/
def target? (r : Request) (format : Format) : List (Format × Text) :=
  (r.path? format).toList.map (format, ·)

variable {r : Request}

theorem targets_eq (r : Request) : r.targets = target? r .csv ++ (target? r .xml ++ []) := by
  rw [List.append_nil]
  rfl

theorem stage_of_none (h : r.path? format = none) : stage r session format files = (.ok (), files) := by
  rw [stage, h]

theorem stage_of_some (h : r.path? format = some path) :
    stage r session format files = write files session format path := by
  rw [stage, h]

/-- An export that fails is the last, and the result names it. -/
theorem deliver_stage_error {e : Failure} (h : (stage r session format files).1 = .error e) :
    ∃ path, r.path? format = some path ∧
      (∃ cause, e = .io cause ∨ format = .xml ∧ e = .document cause) ∧
      deliver time session (target? r format ++ rest) files =
        ⟨.error (.delivery format path e), (stage r session format files).2, []⟩ := by
  cases asked : r.path? format with
  | none =>
    rw [stage_of_none asked] at h
    cases h
  | some path =>
    rw [stage_of_some asked] at h ⊢
    refine ⟨path, rfl, Export.failure_of_write h, ?_⟩
    rw [target?, asked]
    exact deliver_cons_error h

/-- After an export that succeeds, or is not asked for, comes the rest. -/
theorem deliver_stage_ok (h : (stage r session format files).1 = .ok ()) :
    (deliver time session (target? r format ++ rest) files).result =
        (deliver time session rest (stage r session format files).2).result ∧
      (deliver time session (target? r format ++ rest) files).files =
        (deliver time session rest (stage r session format files).2).files := by
  cases asked : r.path? format with
  | none =>
    rw [stage_of_none asked, target?, asked]
    exact ⟨rfl, rfl⟩
  | some path =>
    rw [stage_of_some asked] at h ⊢
    have next : target? r format ++ rest = (format, path) :: rest := by
      rw [target?, asked]
      rfl
    rw [next, deliver_cons_ok h]
    exact ⟨rfl, rfl⟩

/-- An export whose path cannot be opened fails, and leaves every file as it was. -/
theorem stage_of_openForWriting (session : Session) {f : Fault} (asked : r.path? format = some path)
    (closed : files.openForWriting path = .error f) :
    stage r session format files = (.error (.io f), files) := by
  rw [stage_of_some asked]
  simp only [write, closed]

/-! ## The aftermath of a launch -/

/-- What holds after a run whose program was launched and left `left`, with the session of the launch. -/
structure Aftermath (r : Request) (session : Session) (left : Store) (o : Outcome Session) : Prop where
  /-- If the CSV export fails, the result names it and a failure of input or output, and the XML target shows what it
  showed, unless it is the same file: it is neither made nor changed. -/
  csvFailed {e : Failure} : (stage r session .csv left).1 = .error e →
    ∃ p cause, r.csvPath = some p ∧ o.result = .error (.delivery .csv p (.io cause)) ∧
      ∀ q, left.Sound → r.xmlPath = some q → ¬o.files.sameFile p q → o.files.fileAt? q = left.fileAt? q
  /-- If only the XML export fails, the result names it, and a regular CSV target that is another file holds the
  complete CSV form. -/
  xmlFailed {e : Failure} : (stage r session .csv left).1 = .ok () →
    (stage r session .xml (stage r session .csv left).2).1 = .error e →
    ∃ q cause, r.xmlPath = some q ∧ (e = .io cause ∨ e = .document cause) ∧
      o.result = .error (.delivery .xml q e) ∧
      ∀ p, r.csvPath = some p → o.files.isRegularFile p → ¬o.files.sameFile p q →
        o.files.contentsAt? p = some (render .csv session).toUtf8
  /-- If no export fails, the run succeeds. -/
  succeeded : (stage r session .csv left).1 = .ok () →
    (stage r session .xml (stage r session .csv left).2).1 = .ok () → o.result = .ok session
  /-- A path that denotes no target's file shows what it showed. -/
  others {q : Text} : left.Sound → (∀ x ∈ r.targets, ¬o.files.sameFile x.2 q) →
    o.files.fileAt? q = left.fileAt? q
  /-- What was there is there, under the names it had, and what no target denotes holds what it held. -/
  kept : left.Extends o.files ∧ ∀ i n, left.node? i = some n →
    (∀ x ∈ r.targets, o.files.find x.2 ≠ .ok i) → o.files.contents? i = left.contents? i
  /-- If the CSV path cannot be opened, nothing is changed. -/
  csvClosed {p : Text} {f : Fault} : r.csvPath = some p → left.openForWriting p = .error f → o.files = left
  /-- If the XML path cannot be opened, nothing is changed after the CSV export. -/
  xmlClosed {q : Text} {f : Fault} : (stage r session .csv left).1 = .ok () → r.xmlPath = some q →
    (stage r session .csv left).2.openForWriting q = .error f → o.files = (stage r session .csv left).2

/-- A delivery of both exports ends as its stages do. -/
theorem aftermath_of_deliver {o : Outcome Session}
    (result : o.result = (deliver time session r.targets files).result.map fun _ => session)
    (left : o.files = (deliver time session r.targets files).files) : Aftermath r session files o := by
  constructor
  case csvFailed =>
    intro e failed
    obtain ⟨p, asked, ⟨cause, io | ⟨xml, -⟩⟩, last⟩ := deliver_stage_error failed
    · rw [targets_eq, last] at result left
      rw [io] at result
      refine ⟨p, cause, asked, result, ?_⟩
      intro q sound xml other
      rw [stage_of_some asked] at left
      rw [left] at other ⊢
      exact Export.fileAt?_write sound other
    · cases xml
  case xmlFailed =>
    intro e ok failed
    obtain ⟨q, asked, ⟨cause, io⟩, last⟩ := deliver_stage_error failed
    -- What is left is the store after the XML export has failed, which began where the CSV export had succeeded.
    rw [targets_eq, (deliver_stage_ok ok).1, last] at result
    rw [targets_eq, (deliver_stage_ok ok).2, last] at left
    refine ⟨q, cause, asked, io.imp_right And.right, result, ?_⟩
    intro p (csv : r.path? .csv = some p) regular other
    obtain ⟨i, found, regular⟩ := Store.exists_of_isRegularFile regular
    rw [Store.contentsAt?_of_find found]
    rw [stage_of_some asked] at left
    rw [stage_of_some csv] at ok left
    have apart : o.files.find q ≠ .ok i := fun same => other (Store.sameFile_iff.mpr ⟨i, found, same⟩)
    rw [left] at found regular apart ⊢
    exact contents?_of_written ok (Export.extends_write ..) found regular fun n node =>
      Export.contents?_write node apart
  case succeeded =>
    intro csv xml
    rw [targets_eq, (deliver_stage_ok csv).1, (deliver_stage_ok xml).1] at result
    exact result
  case others =>
    intro q sound other
    rw [left] at other ⊢
    exact fileAt?_deliver sound other
  case kept =>
    rw [left]
    exact ⟨extends_deliver .., fun i n node other => contents?_deliver node other⟩
  case csvClosed =>
    intro p f (asked : r.path? .csv = some p) closed
    have failed := stage_of_openForWriting session asked closed
    obtain ⟨_, -, -, last⟩ := deliver_stage_error (congrArg Prod.fst failed)
    rw [left, targets_eq, last, failed]
  case xmlClosed =>
    intro q f ok (asked : r.path? .xml = some q) closed
    have failed := stage_of_openForWriting session asked closed
    obtain ⟨_, -, -, last⟩ := deliver_stage_error (congrArg Prod.fst failed)
    rw [left, targets_eq, (deliver_stage_ok ok).2, last, failed]

theorem isOk_map {ε α β : Type} (f : α → β) (x : Except ε α) : (x.map f).isOk = x.isOk := by
  cases x <;> rfl

/-- A run whose program was launched ends as its delivery does. -/
theorem result_of_launch {m : Machine} {c : Completion}
    (h : launch m files r.program r.arguments = .ok (session, c)) :
    (run m files r).result =
        (deliver (m.clock.after c.elapsed) session r.targets c.files).result.map (fun _ => session) ∧
      (run m files r).files = (deliver (m.clock.after c.elapsed) session r.targets c.files).files := by
  unfold run
  rw [h]
  exact ⟨rfl, rfl⟩

/-- A run whose program is not launched says what it had set out to do. -/
theorem notices_of_failed_launch {m : Machine} {e : Failure} (h : launch m files r.program r.arguments = .error e) :
    (run m files r).notices = (opening files r).map (.event m.clock files) := by
  unfold run
  rw [h]

/-- A run whose program was launched goes on with how it has ended and with the exports. -/
theorem notices_of_launch {m : Machine} {c : Completion}
    (h : launch m files r.program r.arguments = .ok (session, c)) :
    let time := m.clock.after c.elapsed
    (run m files r).notices = (opening files r).map (.event m.clock files) ++
      (.output c.stdout c.stderr ::
        ((closing r session c).map (.event time c.files) ++ (deliver time session r.targets c.files).notices)) := by
  intro time
  unfold run
  rw [h]
  exact List.append_assoc ..

/-- A directory with two files in it, `c` and `d`, where the next file that is made has no room. -/
def fullShelf : Store where
  nodes := [.directory 0 [(['c'], 1), (['d'], 2)], .file [120, 120] false, .file [121] true]
  here := 0
  full := [3]

end Run

/-- **What a run leaves behind.**  If the launch fails, the run fails with it, names the program as it was given and
leaves every file as it was.  If the launch succeeds, what follows is an `Aftermath`.  And whether the run succeeds then
depends on the files that the program has left, not on how it ended. -/
theorem aftermath_of_run (m : Machine) (files : Store) (r : Request) :
    (∀ e, launch m files r.program r.arguments = .error e →
      (∃ cause, e = .launch r.program cause) ∧ (run m files r).result = .error e ∧
        (run m files r).files = files) ∧
    (∀ session c, launch m files r.program r.arguments = .ok (session, c) →
      Run.Aftermath r session c.files (run m files r)) ∧
    (∀ session c, launch m files r.program r.arguments = .ok (session, c) →
      ∀ m' files' session' c', launch m' files' r.program r.arguments = .ok (session', c') →
        c'.files = c.files → (run m' files' r).result.isOk = (run m files r).result.isOk) := by
  refine ⟨?_, ?_, ?_⟩
  · intro e failed
    refine ⟨?_, ?_⟩
    · unfold launch at failed
      split at failed
      · cases failed
      · exact ⟨_, (Except.error.inj failed).symm⟩
    · unfold run
      rw [failed]
      exact ⟨rfl, rfl⟩
  · intro session c launched
    have result := Run.result_of_launch launched
    exact Run.aftermath_of_deliver result.1 result.2
  · intro session c launched m' files' session' c' launched' same
    rw [(Run.result_of_launch launched).1, (Run.result_of_launch launched').1, Run.isOk_map, Run.isOk_map, same]
    exact Run.isOk_deliver rfl

/-- The XML file is made but has no room: the run fails, the CSV file is complete, and a third file is as it was. -/
theorem aftermath_of_full_file :
    let o := run Run.failing Run.fullShelf (Run.both ['c'] ['x'])
    (∃ e, o.result = .error (.delivery .xml ['x'] e)) ∧
      o.files.contentsAt? ['c'] = some (render .csv Run.failed).toUtf8 ∧
      o.files.fileAt? ['d'] = Run.fullShelf.fileAt? ['d'] := by
  let r := Run.both ['c'] ['x']
  let o := run Run.failing Run.fullShelf r
  have launched : launch Run.failing Run.fullShelf r.program r.arguments =
      .ok (Run.failed, ⟨.exited 1, ⟨0, 0⟩, Run.fullShelf, [], []⟩) :=
    Run.eq_ok_of_toOption (by decide +kernel)
  have sound : Run.fullShelf.Sound := Store.sound_of_places (by decide) (by decide)
  have after := (aftermath_of_run Run.failing Run.fullShelf r).2.1 _ _ launched
  obtain ⟨csv, xml, regular, apart, third⟩ :
      (Run.stage r Run.failed .csv Run.fullShelf).1.toOption = some () ∧
        (Run.stage r Run.failed .xml (Run.stage r Run.failed .csv Run.fullShelf).2).1.toOption = none ∧
        o.files.isRegularFile ['c'] ∧ ¬o.files.sameFile ['c'] ['x'] ∧
        ∀ x ∈ r.targets, ¬o.files.sameFile x.2 ['d'] := by decide +kernel
  cases failed : (Run.stage r Run.failed .xml (Run.stage r Run.failed .csv Run.fullShelf).2).1 with
  | ok =>
    rw [failed] at xml
    cases xml
  | error e =>
    obtain ⟨q, cause, asked, -, result, held⟩ := after.xmlFailed (Run.eq_ok_of_toOption csv) failed
    cases asked
    exact ⟨⟨e, result⟩, held ['c'] rfl regular apart, after.others sound third⟩

end ProgramTrace
