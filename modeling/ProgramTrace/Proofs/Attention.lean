import ProgramTrace.Proofs.Aftermath
import ProgramTrace.Tool

/-!
# `ProgramTrace.Proofs.Attention` — how far a run is heard of, and what the report on it says.

A run is one list of notices, and the tool attends to them in order.  A line of the log that standard error does not take
ends the tool there, so that nothing after it is done (`LogSetup.attend`).  Of what is heard two things are to be known:

* If nothing ends it, all is heard, and a line of the log that comes last has been taken (`takes_of_heard`).
* If something does, it is a line of the log, it has not been taken, and the files that are left are those at one of the
  events (`exists_of_halted`).

So a report tells whether the tool was cut short, by what was written to standard error last and by what has been taken
of it all (`Report.CutShort`).  If not, the status is that of the outcome (`status_conclude`).
-/

namespace ProgramTrace

open Files (Store)

/-! ## Streams -/

namespace Stream

variable {s : Stream} {bytes : Bytes}

/-- Bytes are taken whole exactly if nothing of them is missing. -/
theorem takes_iff : s.takes bytes ↔ s.taken bytes = bytes := by
  unfold takes taken
  cases s.room with
  | none => simp
  | some n =>
    show decide (bytes.length ≤ n) = true ↔ bytes.take n = bytes
    rw [decide_eq_true_iff]
    refine ⟨List.take_of_length_le, fun whole => ?_⟩
    rw [← whole]
    exact List.length_take_le ..

@[simp] theorem taken_nil (s : Stream) : s.taken [] = [] := by
  unfold taken
  split
  · rfl
  · exact List.take_nil

end Stream

namespace Tool

/-! ## What is heard -/

section Attending

variable {l : LogSetup} {stderr : Stream} {before : Bytes} {n : Notice} {ns ms : List Notice} {left : Store} {t : Text}

/-- The bytes that notices add to standard error. -/
def LogSetup.bytes (l : LogSetup) (ns : List Notice) : Bytes := (ns.flatMap l.said).flatMap Message.bytes

theorem LogSetup.bytes_cons (l : LogSetup) (n : Notice) (ns : List Notice) :
    l.bytes (n :: ns) = (l.said n).flatMap Message.bytes ++ l.bytes ns := by
  rw [bytes, List.flatMap_cons, List.flatMap_append]
  rfl

theorem attend_cons_of_halt (h : l.halt? stderr before n = some left) :
    l.attend stderr before (n :: ns) = ([n], some left) := by
  simp only [LogSetup.attend, h]

theorem attend_cons_of_pass (h : l.halt? stderr before n = none) :
    l.attend stderr before (n :: ns) =
      let later := l.attend stderr (before ++ (l.said n).flatMap Message.bytes) ns
      (n :: later.1, later.2) := by
  simp only [LogSetup.attend, h]

/-- What ends the tool is an event with a line that is not taken. -/
theorem exists_of_halt (h : l.halt? stderr before n = some left) :
    ∃ time e t, n = .event time left e ∧ l.said n = [.logged t] ∧ stderr.takes (before ++ t.toUtf8) = false := by
  unfold LogSetup.halt? at h
  split at h
  · rename_i time files e
    split at h
    · rename_i untaken
      obtain rfl := Option.some.inj h
      obtain ⟨lets, untaken⟩ := Bool.and_eq_true_iff.mp untaken
      refine ⟨time, e, _, rfl, ?_, by simpa using untaken⟩
      simp only [LogSetup.said, LogSetup.messages, lets, if_true]
    · cases h
  · cases h

/-- Where the tool goes on, a line of the log has been taken. -/
theorem takes_of_pass (h : l.halt? stderr before n = none) (last : (l.said n).getLast? = some (.logged t)) :
    stderr.takes (before ++ (l.said n).flatMap Message.bytes) := by
  cases n with
  | event time files e =>
    cases lets : l.filter.lets e with
    | false => simp [LogSetup.said, LogSetup.messages, lets] at last
    | true =>
      simp only [LogSetup.halt?, lets, Bool.true_and] at h
      simp only [LogSetup.said, LogSetup.messages, lets, if_true, List.flatMap_singleton, Message.bytes]
      cases taken : stderr.takes (before ++ (Log.line l.colour time e).toUtf8) with
      | true => rfl
      | false => simp [taken] at h
  | output | shown => simp [LogSetup.said, LogSetup.messages] at last

/-- If nothing ends it, all is heard. -/
theorem heard_eq (h : (l.attend stderr before ns).2 = none) : (l.attend stderr before ns).1 = ns := by
  fun_induction LogSetup.attend l stderr before ns with
  | case1 => rfl
  | case2 => cases h
  | case3 before n ns pass heard halted later ih =>
    rw [later] at ih
    exact congrArg (n :: ·) (ih h)

/-- What is heard is a first part of all. -/
theorem heard_isPrefix (l : LogSetup) (stderr : Stream) (before : Bytes) (ns : List Notice) :
    (l.attend stderr before ns).1 <+: ns := by
  fun_induction LogSetup.attend l stderr before ns with
  | case1 => exact List.nil_prefix
  | case2 before n => exact (List.prefix_cons_inj n).mpr List.nil_prefix
  | case3 before n ns pass heard halted later ih =>
    rw [later] at ih
    exact (List.prefix_cons_inj n).mpr ih

/-- **If nothing ends it, a line of the log that comes last has been taken.** -/
theorem takes_of_heard (h : (l.attend stderr before ns).2 = none)
    (last : (ns.flatMap l.said).getLast? = some (.logged t)) : stderr.takes (before ++ l.bytes ns) := by
  fun_induction LogSetup.attend l stderr before ns with
  | case1 => cases last
  | case2 => cases h
  | case3 before n ns pass heard halted later ih =>
    rw [later] at ih
    rw [LogSetup.bytes_cons, ← List.append_assoc]
    rw [List.flatMap_cons, List.getLast?_append] at last
    -- The last line is one of the other notices, or of this one if they add nothing.
    cases others : (ns.flatMap l.said).getLast? with
    | some x =>
      rw [others, Option.some_or] at last
      exact ih h (others.trans last)
    | none =>
      rw [others, Option.none_or] at last
      have nothing : l.bytes ns = [] := by
        rw [LogSetup.bytes, List.getLast?_eq_none_iff.mp others, List.flatMap_nil]
      rw [nothing, List.append_nil]
      exact takes_of_pass pass last

/-- **If something ends it, that is a line of the log which has not been taken**, and the files are those at one of the
events. -/
theorem exists_of_halted (h : (l.attend stderr before ns).2 = some left) :
    (∃ t, ((l.attend stderr before ns).1.flatMap l.said).getLast? = some (.logged t)) ∧
      stderr.takes (before ++ l.bytes (l.attend stderr before ns).1) = false ∧
      ∃ time e, Notice.event time left e ∈ ns := by
  fun_induction LogSetup.attend l stderr before ns with
  | case1 => cases h
  | case2 before n ns files halt =>
    obtain rfl := Option.some.inj h
    obtain ⟨time, e, t, rfl, said, untaken⟩ := exists_of_halt halt
    refine ⟨⟨t, ?_⟩, ?_, time, e, List.mem_cons_self ..⟩
    · rw [List.flatMap_singleton, said]
      rfl
    · rwa [LogSetup.bytes, List.flatMap_singleton, said, List.flatMap_singleton]
  | case3 before n ns pass heard halted later ih =>
    rw [later] at ih
    obtain ⟨⟨t, last⟩, untaken, time, e, mem⟩ := ih h
    refine ⟨⟨t, ?_⟩, ?_, time, e, List.mem_cons_of_mem _ mem⟩
    · rw [List.flatMap_cons, List.getLast?_append, last, Option.some_or]
    · rwa [LogSetup.bytes_cons, ← List.append_assoc]

/-- After a part of a run that is heard whole the tool attends to the rest. -/
theorem attend_append (h : (l.attend stderr before ns).2 = none) :
    l.attend stderr before (ns ++ ms) =
      let later := l.attend stderr (before ++ l.bytes ns) ms
      (ns ++ later.1, later.2) := by
  fun_induction LogSetup.attend l stderr before ns with
  | case1 => simp [LogSetup.bytes]
  | case2 => cases h
  | case3 before n ns pass heard halted later ih =>
    rw [later] at ih
    rw [List.cons_append, attend_cons_of_pass pass, ih h, LogSetup.bytes_cons, List.append_assoc]
    rfl

/-- After a part that ends the tool nothing is heard. -/
theorem attend_append_of_halted (h : (l.attend stderr before ns).2 = some left) :
    l.attend stderr before (ns ++ ms) = l.attend stderr before ns := by
  fun_induction LogSetup.attend l stderr before ns with
  | case1 => cases h
  | case2 before n ns files halt => exact attend_cons_of_halt halt
  | case3 before n ns pass heard halted later ih =>
    rw [later] at ih
    rw [List.cons_append, attend_cons_of_pass pass, ih h]

end Attending

/-! ## Reports -/

/-- Whether a part of standard error is a line that the tool writes about a run. -/
def Message.isOwn : Message → Bool
  | .logged _ | .failed _ => true
  | _ => false

namespace Report

/-- Standard error has taken all that was written to it. -/
def Told (report : Report) : Prop := report.stderr = report.messages.flatMap Message.bytes

instance (report : Report) : Decidable report.Told := inferInstanceAs (Decidable (_ = _))

/-- The tool was cut short: the last that it wrote is a line of its own, and standard error has not taken it. -/
def CutShort (report : Report) : Prop := report.messages.getLast?.any Message.isOwn ∧ ¬report.Told

instance (report : Report) : Decidable report.CutShort := inferInstanceAs (Decidable (_ ∧ _))

theorem Told.not_cutShort {report : Report} (told : report.Told) : ¬report.CutShort := fun cut => cut.2 told

theorem told_of_iff {m : Machine} {status : Nat} {stdout : Bytes} {messages : List Message} {files : Store} :
    (Report.of m status stdout messages files).Told ↔ m.stderr.takes (messages.flatMap Message.bytes) :=
  Stream.takes_iff.symm

end Report

section Concluding

variable {m : Machine} {l : LogSetup} {o : Outcome Session} {left : Store} {s : Session} {f : Failure}

theorem conclude_of_halted (h : (l.attend m.stderr [] o.notices).2 = some left) :
    conclude m l o =
      let heard := (l.attend m.stderr [] o.notices).1
      .of m brokenStatus (heard.flatMap stdoutOf) (heard.flatMap l.said) left := by
  simp only [conclude, h]

theorem conclude_of_ok (h : (l.attend m.stderr [] o.notices).2 = none) (ok : o.result = .ok s) :
    conclude m l o = .of m 0 (o.notices.flatMap stdoutOf) (o.notices.flatMap l.said) o.files := by
  simp only [conclude, h, ok, heard_eq h]

/-- What is written to standard error about a run that has failed. -/
def LogSetup.saidOfFailure (l : LogSetup) (o : Outcome Session) (f : Failure) : List Message :=
  o.notices.flatMap l.said ++ [.failed (failureLine f)]

theorem conclude_of_error (h : (l.attend m.stderr [] o.notices).2 = none) (failed : o.result = .error f) :
    conclude m l o =
      .of m (if m.stderr.takes ((l.saidOfFailure o f).flatMap Message.bytes) then f.status else brokenStatus)
        (o.notices.flatMap stdoutOf) (l.saidOfFailure o f) o.files := by
  simp only [conclude, h, failed, heard_eq h, LogSetup.saidOfFailure]
  rfl

/-- Whatever has come of a run, the report is on what has been heard of it, and on the files as they are then. -/
theorem exists_conclude_eq (m : Machine) (l : LogSetup) (o : Outcome Session) :
    let heard := l.attend m.stderr [] o.notices
    ∃ status messages,
      conclude m l o = .of m status (heard.1.flatMap stdoutOf) messages (heard.2.getD o.files) := by
  intro heard
  cases halted : heard.2 with
  | some left => exact ⟨_, _, conclude_of_halted halted⟩
  | none =>
    rw [show heard.1 = o.notices from heard_eq halted]
    cases result : o.result with
    | ok s => exact ⟨_, _, conclude_of_ok halted result⟩
    | error f => exact ⟨_, _, conclude_of_error halted result⟩

theorem stdout_conclude (m : Machine) (l : LogSetup) (o : Outcome Session) :
    (conclude m l o).stdout = m.stdout.taken ((l.attend m.stderr [] o.notices).1.flatMap stdoutOf) := by
  obtain ⟨status, messages, report⟩ := exists_conclude_eq m l o
  rw [report]
  rfl

/-- On standard error there is what it takes of all that was written to it. -/
theorem stderr_conclude (m : Machine) (l : LogSetup) (o : Outcome Session) :
    (conclude m l o).stderr = m.stderr.taken ((conclude m l o).messages.flatMap Message.bytes) := by
  obtain ⟨status, messages, report⟩ := exists_conclude_eq m l o
  rw [report]
  rfl

/-- The files are left as they were where the tool was ended, or as the outcome has them. -/
theorem files_conclude (m : Machine) (l : LogSetup) (o : Outcome Session) :
    (conclude m l o).files = (l.attend m.stderr [] o.notices).2.getD o.files := by
  obtain ⟨status, messages, report⟩ := exists_conclude_eq m l o
  rw [report]
  rfl

/-- The tool is cut short where a line of the log ends it. -/
theorem cutShort_of_halted (h : (l.attend m.stderr [] o.notices).2 = some left) : (conclude m l o).CutShort := by
  obtain ⟨⟨t, last⟩, untaken, -⟩ := exists_of_halted h
  rw [conclude_of_halted h, Report.CutShort, Report.told_of_iff]
  refine ⟨?_, Bool.eq_false_iff.mp untaken⟩
  show (((l.attend m.stderr [] o.notices).1.flatMap l.said).getLast?.any Message.isOwn) = true
  rw [last]
  rfl

/-- It is not where all is heard and nothing has failed: what was written last was taken, or is no line of its own. -/
theorem not_cutShort_of_ok (h : (l.attend m.stderr [] o.notices).2 = none) (ok : o.result = .ok s) :
    ¬(conclude m l o).CutShort := by
  rw [conclude_of_ok h ok, Report.CutShort, Report.told_of_iff]
  rintro ⟨own, untaken⟩
  obtain ⟨x, last, own⟩ := (Option.any_eq_true _ _).mp own
  change (o.notices.flatMap l.said).getLast? = some x at last
  cases x with
  | logged t => exact untaken (takes_of_heard h last)
  | failed t =>
    obtain ⟨n, -, said⟩ := List.mem_flatMap.mp (List.mem_of_getLast? last)
    cases n <;> simp [LogSetup.said, LogSetup.messages] at said
  | _ => cases own

/-- Where all is heard and something has failed, it is cut short exactly if the line about that is not taken. -/
theorem cutShort_iff_of_error (h : (l.attend m.stderr [] o.notices).2 = none) (failed : o.result = .error f) :
    (conclude m l o).CutShort ↔ ¬m.stderr.takes ((l.saidOfFailure o f).flatMap Message.bytes) := by
  rw [conclude_of_error h failed, Report.CutShort, Report.told_of_iff]
  refine and_iff_right ?_
  show ((l.saidOfFailure o f).getLast?.any Message.isOwn) = true
  rw [LogSetup.saidOfFailure, List.getLast?_concat]
  rfl

/-- Where the tool is not cut short, all is heard. -/
theorem heard_of_not_cutShort (whole : ¬(conclude m l o).CutShort) : (l.attend m.stderr [] o.notices).2 = none := by
  cases h : (l.attend m.stderr [] o.notices).2 with
  | none => rfl
  | some left => exact absurd (cutShort_of_halted h) whole

/-- **The status is that of the outcome, unless the tool is cut short.** -/
theorem status_conclude (m : Machine) (l : LogSetup) (o : Outcome Session) :
    (conclude m l o).status =
      if (conclude m l o).CutShort then brokenStatus
      else match o.result with
        | .ok _ => 0
        | .error f => f.status := by
  cases h : (l.attend m.stderr [] o.notices).2 with
  | some left =>
    rw [if_pos (cutShort_of_halted h), conclude_of_halted h]
    rfl
  | none =>
    cases result : o.result with
    | ok s =>
      rw [if_neg (not_cutShort_of_ok h result), conclude_of_ok h result]
      rfl
    | error f =>
      have cut := cutShort_iff_of_error h result
      by_cases taken : m.stderr.takes ((l.saidOfFailure o f).flatMap Message.bytes)
      · rw [if_neg fun short => cut.mp short taken, conclude_of_error h result, if_pos taken]
        rfl
      · rw [if_pos (cut.mpr taken), conclude_of_error h result, if_neg taken]
        rfl

end Concluding

end Tool

end ProgramTrace
