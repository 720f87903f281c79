import ProgramTrace.Proofs.Export.Write
import ProgramTrace.Run

/-!
# `ProgramTrace.Proofs.Delivery` — what a run leaves in the files of its targets.

Targets are written one after the other, and nothing keeps two of them from being one file: two spellings
of a path, a link, or the same path twice.  What is kept is that a write changes only its own file, so that
each file is left as the last target that leads to it has written it (`contents?_of_deliver`).  A request has
at most two targets, CSV first, and only the XML form can take the place of the other.
-/

namespace ProgramTrace

open Export (Format render write)
open Files (Node Store)

/-! ## Files by path -/

namespace Files.Store

/-- The contents of the file that a path leads to. -/
def contentsAt? (s : Store) (path : Text) : Option Bytes := (s.find path).toOption.bind s.contents?

/-- Whether two paths lead to the same node. -/
def sameFile (s : Store) (p q : Text) : Bool :=
  match s.find p, s.find q with
  | .ok i, .ok j => i = j
  | _, _ => false

variable {s t : Store} {p q : Text}

theorem sameFile_iff : s.sameFile p q ↔ ∃ i, s.find p = .ok i ∧ s.find q = .ok i := by
  unfold sameFile
  split
  · rename_i i j hp hq
    simp [hp, hq, eq_comm]
  · rename_i no
    constructor
    · intro h
      cases h
    · rintro ⟨i, hp, hq⟩
      exact (no i i hp hq).elim

theorem contentsAt?_of_find {i : Nat} (h : s.find p = .ok i) : s.contentsAt? p = s.contents? i := by
  rw [contentsAt?, h]
  rfl

theorem exists_of_isRegularFile (h : s.isRegularFile p) :
    ∃ i, s.find p = .ok i ∧ (s.node? i).any Node.isRegular := by
  simp only [isRegularFile, Bool.and_eq_true] at h
  obtain ⟨-, h⟩ := h
  split at h
  · exact ⟨_, ‹_›, h⟩
  · cases h

/-- What is a regular file has contents, or is a program of the system. -/
theorem contents?_or_program {i : Nat} (h : (s.node? i).any Node.isRegular) :
    (∃ bytes, s.contents? i = some bytes) ∨ ∃ name, s.node? i = some (.program name) := by
  obtain ⟨n, node, regular⟩ := (Option.any_eq_true _ _).mp h
  cases n with
  | file bytes x => exact .inl ⟨bytes, by rw [contents?, node]⟩
  | program name => exact .inr ⟨name, node⟩
  | _ => cases regular

end Files.Store

/-! ## Runs of writes -/

namespace Run

variable {time : Instant} {session : Session} {files : Store} {format : Format} {path : Text}
  {targets rest : List (Format × Text)}

/-- A write that fails is the last. -/
theorem deliver_cons_error {e : Failure} (h : (write files session format path).1 = .error e) :
    deliver time session ((format, path) :: rest) files =
      ⟨.error (.delivery format path e), (write files session format path).2, []⟩ := by
  unfold deliver
  split
  · rename_i hw
    rw [hw] at h ⊢
    cases h
    rfl
  · rename_i hw
    rw [hw] at h
    cases h

theorem exportNotices_eq (time : Instant) (session : Session) (files : Store) (format : Format) (path : Text) :
    exportNotices time session files format path =
      [.shown (Export.shown files session format path).1 (Export.shown files session format path).2,
        .event time files (.exported format path)] := rfl

/-- After a write that succeeds comes the rest. -/
theorem deliver_cons_ok (h : (write files session format path).1 = .ok ()) :
    deliver time session ((format, path) :: rest) files =
      let later := deliver time session rest (write files session format path).2
      { later with
        notices := exportNotices time session (write files session format path).2 format path ++ later.notices } := by
  rw [deliver]
  split
  · rename_i hw
    rw [hw] at h
    cases h
  · rename_i hw
    rw [hw]

/-- Delivering extends the files, whatever comes of it. -/
theorem extends_deliver (time : Instant) (session : Session) (targets : List (Format × Text))
    (files : Store) : files.Extends (deliver time session targets files).files := by
  induction targets generalizing files with
  | nil => exact .refl files
  | cons target rest ih =>
    obtain ⟨format, path⟩ := target
    have first := Export.extends_write files session format path
    cases hw : (write files session format path).1 with
    | error e =>
      rw [deliver_cons_error hw]
      exact first
    | ok =>
      rw [deliver_cons_ok hw]
      exact first.trans (ih _)

/-- **Delivering changes only the files of its targets**, whatever comes of it. -/
theorem contents?_deliver {j : Nat} {n : Node} (old : files.node? j = some n)
    (other : ∀ x ∈ targets, (deliver time session targets files).files.find x.2 ≠ .ok j) :
    (deliver time session targets files).files.contents? j = files.contents? j := by
  induction targets generalizing files n with
  | nil => rfl
  | cons target rest ih =>
    obtain ⟨format, path⟩ := target
    have here := other (format, path) (by simp)
    have later := fun x h => other x (List.mem_cons_of_mem _ h)
    cases hw : (write files session format path).1 with
    | error e =>
      rw [deliver_cons_error hw] at here ⊢
      exact Export.contents?_write old here
    | ok =>
      rw [deliver_cons_ok hw] at here later ⊢
      obtain ⟨m, kept, -⟩ := (Export.extends_write files session format path).kind old
      -- A path that leads to `j` after its own write still does at the end.
      refine (ih kept later).trans (Export.contents?_write old ?_)
      exact fun found => here (Store.find_extends (extends_deliver ..) found)

/-- A path that has been written leads to the complete form of the session, if to a regular file, for as long as its
contents are kept. -/
theorem contents?_of_written {left : Store} {i : Nat} (ok : (write files session format path).1 = .ok ())
    (more : (write files session format path).2.Extends left) (found : left.find path = .ok i)
    (regular : (left.node? i).any Node.isRegular)
    (kept : ∀ n, (write files session format path).2.node? i = some n →
      left.contents? i = (write files session format path).2.contents? i) :
    left.contents? i = some (render format session).toUtf8 := by
  obtain ⟨j, made, opened, extended, written⟩ := Export.contents?_of_write_eq_ok ok
  obtain rfl := Store.find_of_make opened (extended.trans more) found
  obtain ⟨n, node, unowned⟩ := Store.node?_make opened
  obtain ⟨bytes, held⟩ | ⟨name, program⟩ := Store.contents?_or_program regular
  · obtain ⟨n', node', -⟩ := extended.kind node
    rw [held, written bytes ((kept n' node').symm.trans held)]
  · have same := (extended.trans more).program program
    exact absurd (Option.some.inj (node.symm.trans same)) (unowned name)

/-- **A target's file is left as that target has written it**, if delivering succeeds and no target after
it leads to the same file. -/
theorem contents?_of_deliver {before : List (Format × Text)} {i : Nat}
    (ok : (deliver time session (before ++ (format, path) :: rest) files).result = .ok ())
    (found :
      (deliver time session (before ++ (format, path) :: rest) files).files.find path = .ok i)
    (regular : ((deliver time session (before ++ (format, path) :: rest) files).files.node? i).any
      Node.isRegular)
    (last : ∀ x ∈ rest,
      (deliver time session (before ++ (format, path) :: rest) files).files.find x.2 ≠ .ok i) :
    (deliver time session (before ++ (format, path) :: rest) files).files.contents? i =
      some (render format session).toUtf8 := by
  induction before generalizing files with
  | nil =>
    rw [List.nil_append] at ok found regular last ⊢
    cases hw : (write files session format path).1 with
    | error e =>
      rw [deliver_cons_error hw] at ok
      cases ok
    | ok =>
      rw [deliver_cons_ok hw] at ok found regular last ⊢
      -- The rest has not touched the file, which was there when the rest began.
      exact contents?_of_written hw (extends_deliver ..) found regular fun _ node =>
        contents?_deliver node last
  | cons target before ih =>
    obtain ⟨format', path'⟩ := target
    rw [List.cons_append] at ok found regular last ⊢
    cases hw : (write files session format' path').1 with
    | error e =>
      rw [deliver_cons_error hw] at ok
      cases ok
    | ok =>
      rw [deliver_cons_ok hw] at ok found regular last ⊢
      exact ih ok found regular last

/-! ## Runs -/

/-- A run that succeeds has launched its program and delivered the session. -/
theorem exists_of_run_eq_ok {m : Machine} {r : Request} (ok : (run m files r).result = .ok session) :
    ∃ c time, launch m files r.program r.arguments = .ok (session, c) ∧
      (deliver time session r.targets c.files).result = .ok () ∧
      (run m files r).files = (deliver time session r.targets c.files).files := by
  unfold run at ok ⊢
  cases launched : launch m files r.program r.arguments with
  | error e =>
    rw [launched] at ok
    cases ok
  | ok a =>
    obtain ⟨session', c⟩ := a
    rw [launched] at ok
    simp only at ok ⊢
    cases delivered : (deliver (m.clock.after c.elapsed) session' r.targets c.files).result with
    | error e =>
      rw [delivered] at ok
      cases ok
    | ok =>
      rw [delivered] at ok
      obtain rfl := Except.ok.inj ok
      exact ⟨c, _, rfl, delivered, rfl⟩

/-- The XML form is written last, wherever it is asked for. -/
theorem contents?_of_xmlPath {r : Request} {q : Text} {i : Nat}
    (ok : (deliver time session r.targets files).result = .ok ()) (asked : r.xmlPath = some q)
    (found : (deliver time session r.targets files).files.find q = .ok i)
    (regular : ((deliver time session r.targets files).files.node? i).any Node.isRegular) :
    (deliver time session r.targets files).files.contents? i = some (render .xml session).toUtf8 := by
  have order : r.targets = r.csvPath.toList.map (Format.csv, ·) ++ (.xml, q) :: [] := by
    rw [Request.targets, asked]
    rfl
  rw [order] at ok found regular ⊢
  exact contents?_of_deliver ok found regular (by simp)

end Run

/-- **A run that succeeds has delivered every export.**  The file of each target holds the complete form of
the session in the target's format; only where the XML target is the same file as the CSV target, that
file holds the XML form, which was written last. -/
theorem delivered_of_run_eq_ok {m : Machine} {files : Store} {r : Request} {session : Session}
    {format : Format} {path : Text} (ok : (run m files r).result = .ok session)
    (target : (format, path) ∈ r.targets) (regular : (run m files r).files.isRegularFile path) :
    (run m files r).files.contentsAt? path =
      some (render (if format = .csv ∧ r.xmlPath.any ((run m files r).files.sameFile path) then .xml
        else format) session).toUtf8 := by
  obtain ⟨c, time, -, delivered, after⟩ := Run.exists_of_run_eq_ok ok
  rw [after] at regular ⊢
  obtain ⟨i, found, regular⟩ := Store.exists_of_isRegularFile regular
  rw [Store.contentsAt?_of_find found]
  rw [Request.mem_targets_iff] at target
  cases format with
  | xml =>
    rw [if_neg (by simp)]
    exact Run.contents?_of_xmlPath delivered target found regular
  | csv =>
    by_cases same : r.xmlPath.any ((Run.deliver time session r.targets c.files).files.sameFile path)
    · rw [if_pos ⟨rfl, same⟩]
      obtain ⟨q, asked, same⟩ := (Option.any_eq_true _ _).mp same
      obtain ⟨j, found', foundq⟩ := Store.sameFile_iff.mp same
      obtain rfl := Except.ok.inj (found.symm.trans found')
      exact Run.contents?_of_xmlPath delivered asked foundq regular
    · rw [if_neg (fun h => same h.2)]
      have order : r.targets = [] ++ (.csv, path) :: r.xmlPath.toList.map (Format.xml, ·) := by
        rw [Request.targets, show r.csvPath = some path from target]
        rfl
      rw [order] at delivered found regular same ⊢
      refine Run.contents?_of_deliver delivered found regular ?_
      intro x hx found'
      obtain ⟨q, asked, rfl⟩ := List.mem_map.mp hx
      have both := Store.sameFile_iff.mpr ⟨i, found, found'⟩
      exact same ((Option.any_eq_true _ _).mpr ⟨q, Option.mem_toList.mp asked, both⟩)

/-! ## Two targets in one file -/

namespace Run

/-- A machine on which every program fails at once and leaves the files as they are. -/
def failing : Machine where
  clock := ⟨0, 0⟩
  start c := .ok ⟨.exited 1, ⟨0, 0⟩, c.files, [], []⟩

/-- A directory with one file in it, `c`. -/
def shelf : Store := { nodes := [.directory 0 [(['c'], 1)], .file [120, 120] false], here := 0 }

/-- A request for both exports. -/
def both (csv xml : Text) : Request := ⟨some csv, some xml, ['p'], []⟩

/-- What is recorded of such a request there. -/
def failed : Session := ⟨['p'], [], ⟨0, 0⟩, ⟨0, 0⟩, some 1⟩

theorem eq_ok_of_toOption {ε α : Type} {x : Except ε α} {a : α} (h : x.toOption = some a) :
    x = .ok a := by
  cases x with
  | error => cases h
  | ok => exact congrArg Except.ok (Option.some.inj h)

end Run

/-- Two files, one of which was there before: each holds the form in its format. -/
theorem delivered_to_two_files :
    let files := (run Run.failing Run.shelf (Run.both ['c'] ['x'])).files
    files.contentsAt? ['c'] = some (render .csv Run.failed).toUtf8 ∧
      files.contentsAt? ['x'] = some (render .xml Run.failed).toUtf8 := by
  let after := run Run.failing Run.shelf (Run.both ['c'] ['x'])
  obtain ⟨ok, c, x, two⟩ : after.result.toOption = some Run.failed ∧
      after.files.isRegularFile ['c'] ∧ after.files.isRegularFile ['x'] ∧
        ¬(Run.both ['c'] ['x']).xmlPath.any (after.files.sameFile ['c']) := by decide +kernel
  have csv : (Format.csv, ['c']) ∈ (Run.both ['c'] ['x']).targets := by decide
  have xml : (Format.xml, ['x']) ∈ (Run.both ['c'] ['x']).targets := by decide
  have held := delivered_of_run_eq_ok (Run.eq_ok_of_toOption ok) csv c
  rw [if_neg (fun h => two h.2)] at held
  exact ⟨held, delivered_of_run_eq_ok (Run.eq_ok_of_toOption ok) xml x⟩

/-- **The CSV form is lost if the XML path is another spelling of its path**, and the run succeeds. -/
theorem not_delivered_to_one_file :
    ¬∀ (m : Machine) (files : Store) (r : Request) (session : Session) (format : Format) (path : Text),
      (run m files r).result = .ok session → (format, path) ∈ r.targets →
        (run m files r).files.isRegularFile path →
          (run m files r).files.contentsAt? path = some (render format session).toUtf8 := by
  intro claim
  let after := run Run.failing Run.shelf (Run.both ['c'] ['.', '/', 'c'])
  obtain ⟨ok, c, lost⟩ : after.result.toOption = some Run.failed ∧
      after.files.isRegularFile ['c'] ∧
        after.files.contentsAt? ['c'] ≠ some (render .csv Run.failed).toUtf8 := by decide +kernel
  exact lost (claim _ _ _ _ .csv ['c'] (Run.eq_ok_of_toOption ok) (by decide) c)

end ProgramTrace
