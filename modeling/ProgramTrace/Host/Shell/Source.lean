import ProgramTrace.Host.Shell.Script

/-!
# `ProgramTrace.Host.Shell.Source` — scripts as they are being read.

A source is what is left of a script, with what is known from the part that has been read: the line, the
texts for streams that are still to come, and the aliases that are being read.  `Token` is what the
commands are made of, and `Reading` a step that takes something from a source or ends with a mistake.
-/

namespace ProgramTrace.Host.Shell

/-! ## Sources -/

/-- A text that stands in the script for a stream to read, before it has been reached: its number, the
line that ends it, whether tabs before its lines are left out, and whether it is expanded. -/
structure Awaited where
  number : Nat
  ending : Octets
  untabbed : Bool
  expanded : Bool
  deriving DecidableEq, Repr

inductive Token where
  | eof
  | newline
  | operator (t : Octets)
  | keyword (t : Octets)
  /-- A redirection, with the stream that it is for. -/
  | redirection (stream : Nat) (kind : Redirecting) (untabbed : Bool)
  | word (w : Word) (quoted : Bool)

def Token.name : Token → Octets
  | .eof => "end of file".toList
  | .newline => "newline".toList
  | .redirection .. => "redirection".toList
  | .word .. => "word".toList
  | .operator t | .keyword t => '"' :: t ++ ['"']

structure Source where
  rest : Octets
  line : Nat
  /-- A token that has been read and put back. -/
  returned : Option Token
  last : Token
  awaited : List Awaited
  /-- The texts for streams that have been reached, each with its number. -/
  documents : List (Nat × Word)
  nextDocument : Nat
  aliases : List (Octets × Octets)
  /-- The aliases that are being read, each with how much was left after it. -/
  replaced : List (Octets × Nat)

/-- A mistake in a script: its line, and what is wrong. -/
structure Mistake where
  line : Nat
  text : Octets
  deriving DecidableEq, Repr

abbrev Reading := StateT Source (Except Mistake)

/-- Reading ends with a mistake. -/
def mistake (t : Octets) : Reading α := fun s => .error ⟨s.line, t⟩

/-- Reading ends because the last token should not be here, or another one should. -/
def unexpected (expected : Option Token) : Reading α := do
  let found := (← get).last.name ++ " unexpected".toList
  match expected with
  | none => mistake found
  | some t => mistake ((found ++ " (expecting ".toList ++ t.name ++ [')']).take 63)

def advance (n : Nat) : Reading Unit :=
  modify fun s => { s with
    rest := s.rest.drop n
    line := s.line + (s.rest.take n).count '\n' }

/-- Leaves out line ends that a backslash hides. -/
def skipJoins : Reading Unit :=
  modify fun s => go s.rest.length s
where
  /-- Leaves out at most a number of hidden line ends. -/
  go : Nat → Source → Source
    | 0, s => s
    | n + 1, s =>
      match s.rest with
      | '\\' :: '\n' :: rest => go n { s with rest, line := s.line + 1 }
      | _ => s

def upcoming : Reading (Option Char) := do
  skipJoins
  return (← get).rest.head?

/-- The characters that come next as long as they are of a kind. -/
def takeRun (isInside : Char → Bool) : Reading Octets := do
  let run := (← get).rest.takeWhile isInside
  advance run.length
  return run

/-! ## Characters -/

def isSpecialParameter (c : Char) : Bool := "?$#@*!-".toList.contains c

def endsWord (c : Char) : Bool := " \t\n;&|<>()".toList.contains c

/-- The character that opens and closes a command substitution of the older form. -/
def backquote : Char := Char.ofNat 0x60

/-! ## Tokens -/

/-- The operators, longer ones first; those of redirections are read apart. -/
def operators : List Octets := ["&&", "||", ";;", "&", "|", ";", "(", ")"].map String.toList

def keywords : List Octets :=
  ["!", "case", "do", "done", "elif", "else", "esac", "fi", "for", "if", "in", "then", "until",
    "while", "\x7b", "\x7d"].map String.toList

/-- What is looked for when a token is read: whether line ends are passed over, whether words can be
reserved, and whether they can be aliases. -/
structure Expecting where
  passLines : Bool
  keywords : Bool
  aliases : Bool

/-- The expectations at the start of a command, in the middle of one, and after an operator. -/
def Expecting.start : Expecting := ⟨false, true, true⟩

@[inherit_doc Expecting.start]
def Expecting.nothing : Expecting := ⟨false, false, false⟩

@[inherit_doc Expecting.start]
def Expecting.continued : Expecting := ⟨true, true, true⟩

/-- The operator of a redirection that comes next. -/
def redirecting : Reading (Redirecting × Bool × Nat) := do
  let (n, r) := match (← get).rest with
    | '>' :: '>' :: _ => (2, (Redirecting.append, false, 1))
    | '>' :: '|' :: _ => (2, (.overwrite, false, 1))
    | '>' :: '&' :: _ => (2, (.copy, false, 1))
    | '>' :: _ => (1, (.write, false, 1))
    | '<' :: '<' :: '-' :: _ => (3, (.document 0, true, 0))
    | '<' :: '<' :: _ => (2, (.document 0, false, 0))
    | '<' :: '&' :: _ => (2, (.copy, false, 0))
    | '<' :: '>' :: _ => (2, (.update, false, 0))
    | _ => (1, (.read, false, 0))
  advance n
  return r

def isQuoted (w : Word) : Bool :=
  w.any fun p => match p with
    | .text quoted _ | .parameter quoted .. | .substitution quoted .. | .arithmetic quoted _ => quoted

/-- Whether a token ends a list of commands. -/
def Token.endsList : Token → Bool
  | .eof => true
  | .operator t => t == [')'] || t == [';', ';']
  | .keyword t => ["do", "done", "elif", "else", "esac", "fi", "then", "\x7d"].any (·.toList == t)
  | _ => false

def Token.isOperator (s : String) : Token → Bool
  | .operator t => t == s.toList
  | _ => false

def Token.isKeyword (s : String) : Token → Bool
  | .keyword t => t == s.toList
  | _ => false

def putBack : Reading Unit := modify fun s => { s with returned := some s.last }

/-! ## The start -/

/-- The source of a script that begins on a line, with the aliases that are known, and the number of the
next text for a stream. -/
def Source.ofScript (script : Octets) (line : Nat) (aliases : List (Octets × Octets))
    (nextDocument : Nat) : Source where
  rest := script
  line := line
  returned := none
  last := .newline
  awaited := []
  documents := []
  nextDocument := nextDocument
  aliases := aliases
  replaced := []

end ProgramTrace.Host.Shell
