import ProgramTrace.Session

/-!
# `ProgramTrace.CommandLine.Token` — what one token of the command line looks like.

A token is a byte string.  `Shape.of` sorts it by its first bytes alone: `--` by itself, `--` with a name
and perhaps an attached value, `-` with letters, and everything else, which is a word.  A lone `-` and
the empty token are words.  `Name.of?` looks a name up among the four that are known.
-/

namespace ProgramTrace.CommandLine

open Export (Format)

def ascii (s : String) : Bytes := Text.toUtf8 s.toList

def dash : UInt8 := 0x2D

def equals : UInt8 := 0x3D

/-! ## Shapes -/

inductive Shape where
  | separator
  /-- The token `--name`, or `--name=value` with the value attached. -/
  | long (name : Bytes) (attached : Option Bytes)
  /-- The token `-letters` with at least one letter, the first of which is not a second dash. -/
  | cluster (letters : Bytes)
  | word
  deriving DecidableEq, Repr

/-- A name up to the first `=`, and the value after it if there is one. -/
def splitAttached : Bytes → Bytes × Option Bytes
  | [] => ([], none)
  | b :: bs =>
    if b = equals then ([], some bs)
    else (b :: (splitAttached bs).1, (splitAttached bs).2)

def Shape.of : Bytes → Shape
  | [] => .word
  | b :: bs =>
    if b ≠ dash then .word
    else match bs with
      | [] => .word
      | c :: cs =>
        if c ≠ dash then .cluster (c :: cs)
        else if cs = [] then .separator
        else .long (splitAttached cs).1 (splitAttached cs).2

/-! ## Names -/

/-- The flags that ask for a text about the tool itself. -/
inductive Flag where
  | help
  | version
  deriving DecidableEq, Repr

def Flag.name : Flag → Text
  | .help => "help".toList
  | .version => "version".toList

inductive Name where
  | option (f : Format)
  | flag (f : Flag)
  deriving DecidableEq, Repr

def Name.text : Name → Text
  | .option f => f.name
  | .flag f => f.name

/-- The known names, in the order in which help lists them. -/
def Name.all : List Name := [.option .csv, .option .xml, .flag .help, .flag .version]

/-- The known name that the bytes spell. -/
def Name.of? (b : Bytes) : Option Name :=
  Name.all.find? fun n => n.text.toUtf8 == b

/-- Splitting loses nothing. -/
theorem splitAttached_join (b : Bytes) :
    (splitAttached b).1 ++ (match (splitAttached b).2 with
      | none => []
      | some v => equals :: v) = b := by
  induction b with
  | nil => rfl
  | cons x xs ih =>
    by_cases h : x = equals
    · simp [splitAttached, h]
    · simp only [splitAttached, if_neg h, List.cons_append, ih]

end ProgramTrace.CommandLine
