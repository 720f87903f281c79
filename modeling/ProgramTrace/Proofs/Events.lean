import ProgramTrace.Proofs.Aftermath
import ProgramTrace.Tool

/-!
# `ProgramTrace.Proofs.Events` — what a run says about itself is what has happened.

A run reports events, and the program, the files and the result are what they are about.  That an export has been
written is said once for each target that has been, in order, and the targets that have been are the longest part of
those asked for that can be written one after the other (`Run.LongestWritten`).  Of all events only the warning about a
program is weighty enough for the log as it is set up by default.

* **`Run.exported_deliver`**: a delivery names the longest part of its targets that is written.  One step of it either
  writes a target and names it, or is the last.
* **`truthful_run`**: the events of a run agree with what comes of the launch and of the exports, on every machine, with
  all files and for every request (`Truthful`).
-/

namespace ProgramTrace

open Export (Format write)
open Files (Store)

/-! ## Events by kind -/

/-- Whether an event is a warning, which only an ending of a program gives cause for. -/
def Log.Event.isWarning (e : Log.Event) : Bool := e.level = .warn

/-- The target of an event that says that an export has been written. -/
def Log.Event.target? : Log.Event → Option (Format × Text)
  | .exported format path => some (format, path)
  | _ => none

/-- The warning that an ending gives cause for. -/
def Ending.complaint (program : Text) : Ending → List Log.Event
  | .exited 0 => []
  | .exited status => [.endedWithStatus program status]
  | .signalled _ => [.endedBySignal program]

/-- An ending gives cause for a warning, and then for one, unless it is status 0. -/
theorem Ending.length_complaint (program : Text) (ending : Ending) :
    (ending.complaint program).length = if ending = .exited 0 then 0 else 1 := by
  cases ending with
  | exited status => cases status <;> rfl
  | signalled => rfl

/-- What it gives cause for is a warning, and says nothing about a target. -/
theorem Ending.of_mem_complaint {program : Text} {ending : Ending} {e : Log.Event}
    (h : e ∈ ending.complaint program) : e.isWarning ∧ e.target? = none := by
  unfold complaint at h
  split at h
  · cases h
  · obtain rfl := List.mem_singleton.mp h
    exact ⟨rfl, rfl⟩
  · obtain rfl := List.mem_singleton.mp h
    exact ⟨rfl, rfl⟩

theorem Ending.filter_complaint (program : Text) (ending : Ending) :
    (ending.complaint program).filter Log.Event.isWarning = ending.complaint program :=
  List.filter_eq_self.mpr fun _ h => (of_mem_complaint h).1

theorem Ending.target?_complaint (program : Text) (ending : Ending) :
    (ending.complaint program).filterMap Log.Event.target? = [] :=
  List.filterMap_eq_nil_iff.mpr fun _ h => (of_mem_complaint h).2

/-- The warning about a session is the one that the ending of its program gives cause for. -/
theorem Run.warning_session (m : Machine) (program : Text) (arguments : List Text) (c : Completion) :
    warning (Launch.session m program arguments c) = c.ending.complaint program := by
  cases ending : c.ending with
  | exited status =>
    cases status with
    | zero => simp [warning, Session.success, Launch.session, ending, Ending.status?, Ending.complaint]
    | succ n =>
      have failed : ((n + 1 : Nat) : Int) ≠ 0 := by omega
      simp only [warning, Session.success, Launch.session, ending, Ending.status?, Ending.complaint, Option.some.injEq,
        failed, decide_false, Bool.false_eq_true, if_false]
  | signalled => simp [warning, Session.success, Launch.session, ending, Ending.status?, Ending.complaint]

namespace Notice

/-- The event that is heard. -/
def event? : Notice → Option Log.Event
  | .event _ _ e => some e
  | .output .. | .shown .. => none

theorem filterMap_event? (time : Instant) (files : Store) (events : List Log.Event) :
    (events.map (Notice.event time files)).filterMap event? = events := by
  simp [List.filterMap_map, Function.comp_def, event?]

end Notice

namespace Outcome

variable {α : Type} (o : Outcome α)

/-- The events of a part of a run, in order. -/
def events : List Log.Event := o.notices.filterMap Notice.event?

/-- The warnings. -/
def warnings : List Log.Event := o.events.filter Log.Event.isWarning

/-- The targets that are said to have been written, in order. -/
def exported : List (Format × Text) := o.events.filterMap Log.Event.target?

end Outcome

/-! ## Targets that are written -/

namespace Run

variable {time : Instant} {session : Session} {files : Store} {format : Format} {path : Text}
  {targets rest done : List (Format × Text)}

/-- Targets that are written one after the other, each into the files that the one before it has left. -/
def Written (session : Session) : Store → List (Format × Text) → Prop
  | _, [] => True
  | files, (format, path) :: rest =>
    (write files session format path).1 = .ok () ∧ Written session (write files session format path).2 rest

/-- The longest part of targets, from the first one on, that is written. -/
structure LongestWritten (session : Session) (files : Store) (targets done : List (Format × Text)) : Prop where
  start : done <+: targets
  written : Written session files done
  longest {more : List (Format × Text)} : more <+: targets → Written session files more → more <+: done

namespace LongestWritten

theorem nil : LongestWritten session files [] [] :=
  ⟨List.prefix_rfl, trivial, fun h _ => h⟩

/-- Where the first target is not written, none is. -/
theorem stop {e : Failure} (h : (write files session format path).1 = .error e) :
    LongestWritten session files ((format, path) :: rest) [] := by
  refine ⟨List.nil_prefix, trivial, ?_⟩
  intro more start written
  obtain rfl | ⟨more, rfl, -⟩ := List.prefix_cons_iff.mp start
  · exact List.nil_prefix
  · rw [Written, h] at written
    cases written.1

/-- Where the first target is written, the rest decides how far it goes. -/
theorem cons (h : (write files session format path).1 = .ok ())
    (later : LongestWritten session (write files session format path).2 rest done) :
    LongestWritten session files ((format, path) :: rest) ((format, path) :: done) := by
  refine ⟨(List.prefix_cons_inj _).mpr later.start, ⟨h, later.written⟩, ?_⟩
  intro more start written
  obtain rfl | ⟨more, rfl, start'⟩ := List.prefix_cons_iff.mp start
  · exact List.nil_prefix
  · exact (List.prefix_cons_inj _).mpr (later.longest start' written.2)

end LongestWritten

/-! ## Events of a delivery -/

/-- What is said about targets that have been written. -/
def wrote (done : List (Format × Text)) : List Log.Event := done.map fun x => .exported x.1 x.2

theorem exported_deliver_cons_ok (h : (write files session format path).1 = .ok ()) :
    (deliver time session ((format, path) :: rest) files).exported =
      (format, path) :: (deliver time session rest (write files session format path).2).exported := by
  rw [deliver_cons_ok h]
  rfl

theorem exported_deliver_cons_error {e : Failure} (h : (write files session format path).1 = .error e) :
    (deliver time session ((format, path) :: rest) files).exported = [] := by
  rw [deliver_cons_error h]
  rfl

/-- A delivery says nothing but what it has written. -/
theorem events_deliver (time : Instant) (session : Session) (targets : List (Format × Text)) (files : Store) :
    (deliver time session targets files).events = wrote (deliver time session targets files).exported := by
  induction targets generalizing files with
  | nil => rfl
  | cons target rest ih =>
    obtain ⟨format, path⟩ := target
    cases hw : (write files session format path).1 with
    | error e =>
      rw [deliver_cons_error hw]
      rfl
    | ok =>
      rw [exported_deliver_cons_ok hw, deliver_cons_ok hw]
      exact congrArg (Log.Event.exported format path :: ·) (ih _)

/-- **A delivery names the longest part of its targets that is written**, whatever comes of it. -/
theorem exported_deliver (time : Instant) (session : Session) (targets : List (Format × Text)) (files : Store) :
    LongestWritten session files targets (deliver time session targets files).exported := by
  induction targets generalizing files with
  | nil => exact .nil
  | cons target rest ih =>
    obtain ⟨format, path⟩ := target
    cases hw : (write files session format path).1 with
    | error e =>
      rw [exported_deliver_cons_error hw]
      exact .stop hw
    | ok =>
      rw [exported_deliver_cons_ok hw]
      exact .cons hw (ih _)

/-- A delivery succeeds exactly if it names as many targets as it has. -/
theorem isOk_deliver_iff (time : Instant) (session : Session) (targets : List (Format × Text)) (files : Store) :
    (deliver time session targets files).result.isOk ↔
      (deliver time session targets files).exported.length = targets.length := by
  induction targets generalizing files with
  | nil => simp [deliver, Outcome.exported, Outcome.events, Except.isOk, Except.toBool]
  | cons target rest ih =>
    obtain ⟨format, path⟩ := target
    cases hw : (write files session format path).1 with
    | error e =>
      rw [exported_deliver_cons_error hw, deliver_cons_error hw]
      simp [Except.isOk, Except.toBool]
    | ok =>
      rw [exported_deliver_cons_ok hw, deliver_cons_ok hw]
      simpa using ih _

/-! ## Events of a run -/

variable {m : Machine} {r : Request} {c : Completion}

/-- The session of a launch is made of what was asked for and of what the program has left. -/
theorem session_of_launch (h : launch m files r.program r.arguments = .ok (session, c)) :
    session = Launch.session m r.program r.arguments c := by
  unfold launch at h
  split at h
  · cases h
    rfl
  · cases h

theorem events_of_launch (h : launch m files r.program r.arguments = .ok (session, c)) :
    (run m files r).events = opening files r ++ closing r session c ++
      wrote (deliver (m.clock.after c.elapsed) session r.targets c.files).exported := by
  rw [Outcome.events, notices_of_launch h, List.filterMap_append, Notice.filterMap_event?, List.filterMap_cons_none rfl,
    List.filterMap_append, Notice.filterMap_event?, List.append_assoc, ← events_deliver]
  rfl

/-- Before the program is started there is nothing to warn about. -/
theorem filter_opening (files : Store) (r : Request) : (opening files r).filter Log.Event.isWarning = [] := rfl

theorem target?_opening (files : Store) (r : Request) : (opening files r).filterMap Log.Event.target? = [] := rfl

/-- Of what is said about a program that has ended, the warning is what its ending gives cause for. -/
theorem filter_closing (h : launch m files r.program r.arguments = .ok (session, c)) :
    (closing r session c).filter Log.Event.isWarning = c.ending.complaint r.program := by
  rw [closing, session_of_launch h, warning_session, List.cons_append, List.filter_cons_of_neg Bool.false_ne_true,
    List.filter_append, Ending.filter_complaint]
  split
  · exact List.append_nil _
  · exact List.append_nil _

theorem target?_closing (h : launch m files r.program r.arguments = .ok (session, c)) :
    (closing r session c).filterMap Log.Event.target? = [] := by
  rw [closing, session_of_launch h, warning_session, List.cons_append, List.filterMap_cons_none rfl,
    List.filterMap_append, Ending.target?_complaint]
  split <;> rfl

/-- An export is nothing to warn about. -/
theorem filter_wrote (done : List (Format × Text)) : (wrote done).filter Log.Event.isWarning = [] := by
  simp [wrote, List.filter_map, Function.comp_def, Log.Event.isWarning, Log.Event.level]

theorem target?_wrote (done : List (Format × Text)) : (wrote done).filterMap Log.Event.target? = done := by
  simp [wrote, List.filterMap_map, Function.comp_def, Log.Event.target?]

/-- A run whose program was launched warns as its ending gives cause for. -/
theorem warnings_of_launch (h : launch m files r.program r.arguments = .ok (session, c)) :
    (run m files r).warnings = c.ending.complaint r.program := by
  rw [Outcome.warnings, events_of_launch h, List.filter_append, List.filter_append, filter_opening, filter_closing h,
    filter_wrote, List.nil_append, List.append_nil]

/-- A run whose program was launched names the targets that its delivery names. -/
theorem exported_of_launch (h : launch m files r.program r.arguments = .ok (session, c)) :
    (run m files r).exported =
      (deliver (m.clock.after c.elapsed) session r.targets c.files).exported := by
  rw [Outcome.exported, events_of_launch h, List.filterMap_append, List.filterMap_append, target?_opening,
    target?_closing h, target?_wrote]
  rfl

theorem events_of_failed_launch {e : Failure} (h : launch m files r.program r.arguments = .error e) :
    (run m files r).events = opening files r := by
  rw [Outcome.events, notices_of_failed_launch h, Notice.filterMap_event?]

/-- Where targets are named in the end only, and nothing is warned about there, no warning comes after a target. -/
theorem pairwise_of_append {before after : List Log.Event} (hb : before.filterMap Log.Event.target? = [])
    (ha : after.filter Log.Event.isWarning = []) :
    (before ++ after).Pairwise fun a b => a.target?.isSome → ¬b.isWarning := by
  have untargeted : ∀ a ∈ before, a.target?.isSome = false := by
    simpa [List.filterMap_eq_nil_iff] using hb
  have calm : ∀ b ∈ after, ¬b.isWarning := List.filter_eq_nil_iff.mp ha
  refine List.pairwise_append.mpr ⟨?_, ?_, ?_⟩
  · refine List.pairwise_iff_forall_sublist.mpr fun {a b} sub named => ?_
    simp [untargeted a (sub.subset (by simp))] at named
  · exact List.pairwise_iff_forall_sublist.mpr fun {a b} sub _ => calm b (sub.subset (by simp))
  · exact fun _ _ b mem _ => calm b mem

end Run

/-! ## The log as it is by default -/

/-- **Without a setting only warnings are logged.** -/
theorem Log.Filter.lets_ofSetting_none (e : Log.Event) : (Filter.ofSetting none).lets e = e.isWarning := by
  cases e <;> rfl

/-- What events add to standard error without a setting. -/
theorem Tool.LogSetup.messages_events {l : LogSetup} (unset : l.filter = .ofSetting none) (time : Instant) (files : Store)
    (events : List Log.Event) :
    (events.map (Notice.event time files)).flatMap l.messages =
      (events.filter Log.Event.isWarning).map fun e => .logged (Log.line l.colour time e) := by
  induction events with
  | nil => rfl
  | cons e events ih =>
    rw [List.map_cons, List.flatMap_cons, ih, messages, unset, Log.Filter.lets_ofSetting_none]
    cases warned : e.isWarning with
    | true => simp [warned]
    | false => simp [warned]

/-- A delivery is not heard of without a setting. -/
theorem Run.messages_deliver {l : Tool.LogSetup} (unset : l.filter = .ofSetting none) (time : Instant) (session : Session)
    (targets : List (Format × Text)) (files : Store) :
    (deliver time session targets files).notices.flatMap l.messages = [] := by
  induction targets generalizing files with
  | nil => rfl
  | cons target rest ih =>
    obtain ⟨format, path⟩ := target
    cases hw : (write files session format path).1 with
    | error e =>
      rw [deliver_cons_error hw]
      rfl
    | ok =>
      have silent : (exportNotices time session (write files session format path).2 format path).flatMap l.messages =
          [] := by
        simp [exportNotices_eq, Tool.LogSetup.messages, unset, Log.Filter.lets_ofSetting_none, Log.Event.isWarning,
          Log.Event.level]
      rw [deliver_cons_ok hw, List.flatMap_append, silent, ih]
      rfl

/-! ## Truth -/

variable {m : Machine} {files : Store} {r : Request} {session : Session} {c : Completion}

/-- The program was launched, and it has ended with another status than 0 or by a signal. -/
def EndsBadly (m : Machine) (files : Store) (r : Request) : Prop :=
  ∃ session c, launch m files r.program r.arguments = .ok (session, c) ∧ c.ending ≠ .exited 0

/-- The events of an outcome agree with what comes of carrying out a request. -/
structure Truthful (m : Machine) (files : Store) (r : Request) (o : Outcome Session) : Prop where
  /-- There is one warning exactly if the program was launched and has ended badly, and otherwise there is none. -/
  warned_iff : o.warnings.length = 1 ↔ EndsBadly m files r
  unwarned : ¬EndsBadly m files r → o.warnings = []
  /-- The warning is the one that the ending gives cause for. -/
  warning {session : Session} {c : Completion} : launch m files r.program r.arguments = .ok (session, c) →
    o.warnings = c.ending.complaint r.program
  /-- It comes before all that is said about exports, whatever comes of them. -/
  order : o.events.Pairwise fun a b => a.target?.isSome → ¬b.isWarning
  /-- What is said to have been written is the longest part of the targets that is written one after the other. -/
  exported {session : Session} {c : Completion} : launch m files r.program r.arguments = .ok (session, c) →
    Run.LongestWritten session c.files r.targets o.exported
  unexported {e : Failure} : launch m files r.program r.arguments = .error e → o.exported = []
  /-- The request is carried out exactly if the program was launched and each target is said to have been written. -/
  isOk_iff : o.result.isOk ↔
    (launch m files r.program r.arguments).isOk ∧ o.exported.length = r.targets.length
  /-- Where the log is not set up, the warning is the one line that is logged, next to what the program has written. -/
  logged {session : Session} {c : Completion} {l : Tool.LogSetup} :
    launch m files r.program r.arguments = .ok (session, c) → l.filter = .ofSetting none →
    o.notices.flatMap l.messages = .passed c.stderr ::
      o.warnings.map fun e => .logged (Log.line l.colour (m.clock.after c.elapsed) e)
  unlogged {e : Failure} {l : Tool.LogSetup} : launch m files r.program r.arguments = .error e →
    l.filter = .ofSetting none → o.notices.flatMap l.messages = []

namespace Run

/-- A run whose program is not launched says neither that it has ended badly nor that anything has been written. -/
theorem truthful_of_failed_launch {e : Failure} (launched : launch m files r.program r.arguments = .error e) :
    Truthful m files r (run m files r) := by
  have events := events_of_failed_launch launched
  have warnings : (run m files r).warnings = [] := by rw [Outcome.warnings, events, filter_opening]
  have exported : (run m files r).exported = [] := by rw [Outcome.exported, events, target?_opening]
  have unlaunched {session c} : launch m files r.program r.arguments ≠ .ok (session, c) := by simp [launched]
  constructor
  case warned_iff => simp [warnings, EndsBadly, launched]
  case unwarned => exact fun _ => warnings
  case warning => exact fun h => absurd h unlaunched
  case order =>
    rw [events, ← List.append_nil (opening files r)]
    exact pairwise_of_append (target?_opening files r) rfl
  case exported => exact fun h => absurd h unlaunched
  case unexported => exact fun _ => exported
  case isOk_iff => simp [run, launched, Except.isOk, Except.toBool]
  case logged => exact fun h => absurd h unlaunched
  case unlogged =>
    intro e l _ unset
    rw [notices_of_failed_launch launched, Tool.LogSetup.messages_events unset, filter_opening]
    rfl

/-- A run whose program was launched says how it has ended and what has been written, before it stops. -/
theorem truthful_of_launch (launched : launch m files r.program r.arguments = .ok (session, c)) :
    Truthful m files r (run m files r) := by
  have warnings := warnings_of_launch launched
  have exported := exported_of_launch launched
  have same {session' c'} (h : launch m files r.program r.arguments = .ok (session', c')) :
      session = session' ∧ c = c' := by simpa [launched] using h
  have bad : EndsBadly m files r ↔ c.ending ≠ .exited 0 := by
    refine ⟨?_, fun h => ⟨session, c, launched, h⟩⟩
    rintro ⟨session', c', h, other⟩
    obtain ⟨rfl, rfl⟩ := same h
    exact other
  constructor
  case warned_iff =>
    rw [warnings, Ending.length_complaint, bad]
    split <;> simp_all
  case unwarned =>
    intro good
    have zero : c.ending = .exited 0 := Decidable.not_not.mp (mt bad.mpr good)
    rw [warnings, zero, Ending.complaint]
  case warning =>
    intro session' c' h
    obtain ⟨rfl, rfl⟩ := same h
    exact warnings
  case order =>
    rw [events_of_launch launched]
    refine pairwise_of_append ?_ (filter_wrote _)
    rw [List.filterMap_append, target?_opening, target?_closing launched, List.append_nil]
  case exported =>
    intro session' c' h
    obtain ⟨rfl, rfl⟩ := same h
    rw [exported]
    exact exported_deliver ..
  case unexported => exact fun h => by simp [launched] at h
  case isOk_iff =>
    rw [(result_of_launch launched).1, isOk_map, isOk_deliver_iff, exported, launched]
    exact (and_iff_right rfl).symm
  case logged =>
    intro session' c' l h unset
    obtain ⟨rfl, rfl⟩ := same h
    -- Of the events before the program and of the exports nothing is logged.
    rw [notices_of_launch launched, warnings, List.flatMap_append, Tool.LogSetup.messages_events unset, filter_opening,
      List.flatMap_cons, List.flatMap_append, Tool.LogSetup.messages_events unset, filter_closing launched,
      messages_deliver unset, List.append_nil]
    rfl
  case unlogged => exact fun h => by simp [launched] at h

end Run

/-- A program fails, and of two exports the second one. -/
example :
    let o := run Run.failing ⟨[.directory 0 []], 0, []⟩ ⟨some ['c'], some ['c', '/'], ['p'], []⟩
    o.warnings = [.endedWithStatus ['p'] 1] ∧ o.exported = [(.csv, ['c'])] ∧ ¬o.result.isOk := by decide +kernel

end ProgramTrace
