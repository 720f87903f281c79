import ProgramTrace.CommandLine.Refusal

/-!
# `ProgramTrace.CommandLine.Reader` — from tokens to a request.

The reader goes over the tokens from left to right.  Options come first; the first word that is not the
value of an option is the program, and every token after it is an argument of the program, whatever it
looks like.  An option that takes its value from the next token is *open* until it is settled, and it is
settled late: when the next known option or flag takes effect, or at the end.  So an unknown name that
comes before that decides the refusal, and so does a program or argument that is not UTF-8.
-/

namespace ProgramTrace.CommandLine

open Export (Format)

/-- Makes a request of options and a list that holds the program and its arguments. -/
def assemble (csv xml : Option Text) : List Text → Except Refusal Request
  | [] => .error .programUnnamed
  | p :: as => .ok ⟨csv, xml, p, as⟩

/-! ## The state of the reader -/

/-- The option that is open, if one is. -/
inductive Open where
  | closed
  /-- An option without a value so far. -/
  | awaiting (f : Format)
  /-- An option with a value that has not been looked at. -/
  | holding (f : Format) (value : Bytes)
  deriving DecidableEq, Repr

/-- The options read so far. -/
structure State where
  csv : Option Text
  xml : Option Text
  pending : Open
  deriving DecidableEq, Repr

namespace State

/-- Nothing has been read. -/
def start : State := ⟨none, none, .closed⟩

/-- The value of an option is set; one set before is forgotten. -/
def assign (s : State) (value : Text) : Format → State
  | .csv => { s with csv := some value }
  | .xml => { s with xml := some value }

/-- The open option is settled: it has to have a value, and the value has to be UTF-8. -/
def settle (s : State) : Except Refusal State :=
  match s.pending with
  | .closed => .ok s
  | .awaiting f => .error (.valueMissing f)
  | .holding f value =>
    match value.toText? with
    | some t => .ok ({ s with pending := .closed }.assign t f)
    | none => .error .illFormed

/-- The end of the command line without a program. -/
def close (s : State) : Except Refusal Request := do
  let s ← s.settle
  if s.csv = none ∧ s.xml = none then .error .nothingGiven else .error .programMissing

/-- The program and its arguments are there: they have to be UTF-8, and then the open option is
settled. -/
def finish (s : State) (program : Bytes) (arguments : List Bytes) : Except Refusal Request :=
  match program.toText?, arguments.mapM Bytes.toText? with
  | some p, some as => do
    let s ← s.settle
    assemble s.csv s.xml (p :: as)
  | _, _ => .error .illFormed

/-- An option with its value attached takes effect. -/
def attach (s : State) (f : Format) (value : Bytes) : Except Refusal State := do
  let s ← s.settle
  match value.toText? with
  | some t => .ok (s.assign t f)
  | none => .error .illFormed

/-- An option without an attached value takes effect. -/
def await (s : State) (f : Format) : Except Refusal State := do
  let s ← s.settle
  .ok { s with pending := .awaiting f }

/-- A flag takes effect: the open option is settled first. -/
def refuse (s : State) (f : Flag) : Refusal :=
  match s.settle with
  | .ok _ => .shown f
  | .error r => r

/-- What a token of letters comes to: its first character decides. -/
def cluster (s : State) (letters : Bytes) : Refusal :=
  match (Utf8.scan none letters).head? with
  | some (some 'h') => s.refuse .help
  | some (some 'V') => s.refuse .version
  | some (some c) => .unknownLetters [c]
  | _ => .unknownLetters letters.toTextLossy

end State

/-! ## Reading -/

/-- Reads tokens in a state. -/
def readFrom (s : State) : List Bytes → Except Refusal Request
  | [] => s.close
  | t :: ts =>
    match Shape.of t with
    | .separator =>
      match ts with
      | [] => s.close
      | p :: as => s.finish p as
    | .long name attached =>
      match Name.of? name, attached with
      | some (.option f), some value =>
        match s.attach f value with
        | .ok s => readFrom s ts
        | .error r => .error r
      | some (.option f), none =>
        match s.await f with
        | .ok s => readFrom s ts
        | .error r => .error r
      | some (.flag f), some value => .error (.valueUnexpected f value.toTextLossy)
      | some (.flag f), none => .error (s.refuse f)
      | none, _ => .error (.unknownLong name.toTextLossy)
    | .cluster letters => .error (s.cluster letters)
    | .word =>
      match s.pending with
      | .awaiting f => readFrom { s with pending := .holding f t } ts
      | _ => s.finish t ts

/-- Reads a command line, without the name under which the tool was called. -/
def read (tokens : List Bytes) : Except Refusal Request := readFrom .start tokens

end ProgramTrace.CommandLine
