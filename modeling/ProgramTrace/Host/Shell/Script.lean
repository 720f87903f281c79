import ProgramTrace.Host.Octet

/-!
# `ProgramTrace.Host.Shell.Script` — scripts as data.

A script is a sequence of commands, and a command is built from words.  A word is the list of its pieces:
texts, quoted or not, and expansions, whose value is known only when their turn comes.
-/

namespace ProgramTrace.Host.Shell

/-! ## Words -/

/-- How a parameter is used.  With `orEmpty`, a parameter that is set but empty counts as not set. -/
inductive Use where
  | value
  | length
  /-- The word, if the parameter is not set. -/
  | otherwise (orEmpty : Bool)
  /-- The word, which the parameter is set to, if it is not set. -/
  | assign (orEmpty : Bool)
  /-- An error with the word as its text, if the parameter is not set. -/
  | demand (orEmpty : Bool)
  /-- The word, if the parameter is set. -/
  | alternative (orEmpty : Bool)
  /-- The value without the shortest or longest text at its start or end that the word matches. -/
  | trim (atEnd longest : Bool)
  /-- A use that is not known, which shows only when the word is expanded. -/
  | unknown
  deriving DecidableEq, Repr

inductive Piece where
  | text (quoted : Bool) (t : Octets)
  | parameter (quoted : Bool) (name : Octets) (use : Use) (word : List Piece)
  /-- The output of a script, which begins on a line. -/
  | substitution (quoted : Bool) (line : Nat) (script : Octets)
  | arithmetic (quoted : Bool) (expression : List Piece)

abbrev Word := List Piece

namespace Word

/-- A word with texts next to each other joined, where both are quoted or both are not. -/
def compact : Word → Word
  | .text q s :: rest =>
    match compact rest with
    | .text r t :: more => if q = r then .text q (s ++ t) :: more else .text q s :: .text r t :: more
    | more => .text q s :: more
  | p :: rest => p :: compact rest
  | [] => []

/-- The text of a word that is one unquoted text. -/
def bare? : Word → Option Octets
  | [.text false t] => some t
  | _ => none

def isNameStart (c : Char) : Bool := c.isAlpha || c == '_'

def isNameCharacter (c : Char) : Bool := c.isAlphanum || c == '_'

def isName (t : Octets) : Bool := t.head?.any isNameStart && t.all isNameCharacter

/-- The name and the value of a word that is an assignment. -/
def assignment? : Word → Option (Octets × Word)
  | .text false t :: more =>
    let name := t.takeWhile isNameCharacter
    match t.drop name.length with
    | '=' :: value =>
      if isName name then some (name, if value = [] then more else .text false value :: more) else none
    | _ => none
  | _ => none

end Word

/-! ## Commands -/

/-- What a redirection does to a stream. -/
inductive Redirecting where
  | read
  | write
  /-- As `write`, even if files are not to be overwritten. -/
  | overwrite
  | append
  | update
  /-- The stream becomes that of another number, or is closed. -/
  | copy
  /-- The stream reads a text that stands in the script, by its number. -/
  | document (number : Nat)
  deriving DecidableEq, Repr

/-- A redirection: the number of a stream, what is done to it, and the word that says to what. -/
structure Redirection where
  stream : Nat
  kind : Redirecting
  target : Word

inductive Command where
  | nothing
  | simple (line : Nat) (assignments : List (Octets × Word)) (words : List Word)
      (redirections : List Redirection)
  | pipe (first second : Command)
  | both (first second : Command)
  | either (first second : Command)
  | negated (c : Command)
  | sequence (first second : Command)
  /-- A command that is not waited for. -/
  | background (line : Nat) (c : Command)
  | redirected (line : Nat) (c : Command) (redirections : List Redirection)
  | subshell (line : Nat) (c : Command) (redirections : List Redirection)
  | choice (condition yes no : Command)
  | loop (stopWhen : Bool) (condition body : Command)
  | each (line : Nat) (name : Octets) (words : List Word) (body : Command)
  | select (line : Nat) (subject : Word) (branches : Command)
  /-- One branch of a case distinction, and the branches after it. -/
  | branch (patterns : List Word) (body others : Command)
  | define (name : Octets) (body : Command)

namespace Command

def stages : Command → List Command
  | .pipe first second => first :: stages second
  | c => [c]

end Command

/-- The names of the commands that end the shell if they fail, and whose assignments stay. -/
def specialNames : List Octets :=
  [":", ".", "break", "continue", "eval", "exec", "exit", "export", "readonly", "return", "set",
    "shift", "times", "trap", "unset", "local"].map String.toList

end ProgramTrace.Host.Shell
