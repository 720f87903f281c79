import ProgramTrace.Text.Classes

/-!
# `ProgramTrace.Log.Pattern` — which texts are patterns for values.

A directive of a log filter may ask for a value by a regular expression.  No event has such a value, so
nothing is ever matched here; but a directive whose pattern is ill-formed cannot be read, and that shows.
`Pattern.isWellFormed` is the test: groups and classes are closed, every repetition has an operand, every
escape has a meaning, and nothing is used that needs tables of characters (the classes of Unicode, word
boundaries between Unicode words, letters without regard to their case) or that would match bytes which
are not UTF-8.

A pattern stands between `=` and the brace that closes a field, so a brace that it opens is never closed:
repetition counts and braced escapes are ill-formed.
-/

namespace ProgramTrace.Log.Pattern

/-! ## Flags -/

/-- What the flags in force say: whether case is disregarded, whether characters are those of Unicode
and not bytes, and whether blanks and comments stand for nothing. -/
structure Flags where
  caseless : Bool
  unicode : Bool
  spaced : Bool
  deriving DecidableEq, Repr

namespace Flags

/-- The flags at the start of a pattern. -/
def initial : Flags := ⟨false, true, false⟩

/-- A text without the blanks at its start, and without the comments, which a `#` opens and a line feed
ends. -/
def skipSpace (inComment : Bool) : Text → Text
  | [] => []
  | c :: cs =>
    if inComment then skipSpace (c ≠ '\n') cs
    else if Blank.mem c then skipSpace false cs
    else if c = '#' then skipSpace true cs
    else c :: cs

/-- A text without what stands for nothing at its start. -/
def skip (f : Flags) (t : Text) : Text := if f.spaced then skipSpace false t else t

/-- One flag set or cleared, if its letter is known. -/
def set? (f : Flags) (letter : Char) (value : Bool) : Option Flags :=
  if letter = 'i' then some { f with caseless := value }
  else if letter = 'u' then some { f with unicode := value }
  else if letter = 'x' then some { f with spaced := value }
  else if letter = 'm' ∨ letter = 's' ∨ letter = 'U' ∨ letter = 'R' then some f
  else none

/-- Reads letters of flags, which are set before a `-` and cleared after it, up to a colon or a closing
parenthesis.  Gives the flags, whether any letter or `-` was read, which character ended them, and what
follows it. -/
def read? (f : Flags) (seen : List Char) : Text → Option (Flags × Bool × Char × Text)
  | [] => none
  | c :: cs =>
    if c = ':' ∨ c = ')' then
      if seen.head? = some '-' then none else some (f, !seen.isEmpty, c, cs)
    else if seen.contains c then none
    else if c = '-' then read? f (c :: seen) cs
    else match f.set? c (!seen.contains '-') with
      | none => none
      | some f => read? f (c :: seen) cs

end Flags

/-! ## Escapes -/

/-- What an escape stands for. -/
inductive Escape where
  | literal (c : Char)
  /-- A class of characters. -/
  | set
  /-- A place, and no character. -/
  | place
  deriving DecidableEq, Repr

/-- The value of a hexadecimal digit. -/
def hexDigit? (c : Char) : Option Nat :=
  if '0' ≤ c ∧ c ≤ '9' then some (c.toNat - 48)
  else if 'a' ≤ c ∧ c ≤ 'f' then some (c.toNat - 87)
  else if 'A' ≤ c ∧ c ≤ 'F' then some (c.toNat - 55)
  else none

/-- Reads `n` hexadecimal digits. -/
def hexadecimal? (f : Flags) (value : Nat) : Nat → Text → Option (Nat × Text)
  | 0, t => some (value, t)
  | n + 1, t =>
    match f.skip t with
    | [] => none
    | c :: cs => (hexDigit? c).bind fun d => hexadecimal? f (value * 16 + d) n cs

/-- The character with a number, if there is one; a number of two digits is a byte where characters are
bytes. -/
def numbered? (f : Flags) (digits : Nat) (t : Text) : Option (Escape × Text) :=
  match hexadecimal? f 0 digits t with
  | some (n, rest) =>
    if ¬ n.isValidChar then none
    else if digits = 2 ∧ 0x80 ≤ n ∧ f.unicode = false then none
    else some (.literal (Char.ofNat n), f.skip rest)
  | none => none

/-- Reads what follows a backslash. -/
def escape? (f : Flags) : Text → Option (Escape × Text)
  | [] => none
  | c :: cs =>
    if c = 'x' then numbered? f 2 cs
    else if c = 'u' then numbered? f 4 cs
    else if c = 'U' then numbered? f 8 cs
    else if c = 'd' ∨ c = 's' ∨ c = 'w' then if f.unicode then none else some (.set, cs)
    else if c = 'b' ∨ c = 'B' ∨ c = '<' ∨ c = '>' then
      if f.unicode then none else some (.place, cs)
    else if c = 'A' ∨ c = 'z' then some (.place, cs)
    else if c = 'a' then some (.literal '\x07', cs)
    else if c = 'f' then some (.literal '\x0c', cs)
    else if c = 't' then some (.literal '\t', cs)
    else if c = 'n' then some (.literal '\n', cs)
    else if c = 'r' then some (.literal '\r', cs)
    else if c = 'v' then some (.literal '\x0b', cs)
    else if c.isAlphanum ∨ 0x80 ≤ c.toNat then none
    else some (.literal c, cs)

/-! ## Classes -/

/-- The ways to join what stands on both sides of a class operator. -/
inductive Joining where
  | both
  | without
  | either
  deriving DecidableEq, Repr

/-- The names of the classes of ASCII characters. -/
def asciiClasses : List Text :=
  ["alnum".toList, "alpha".toList, "ascii".toList, "blank".toList, "cntrl".toList, "digit".toList,
    "graph".toList, "lower".toList, "print".toList, "punct".toList, "space".toList, "upper".toList,
    "word".toList, "xdigit".toList]

/-- Reads what follows the bracket of a class such as `[:alpha:]`: whether it is negated, and the
rest. -/
def asciiClass? : Text → Option (Bool × Text)
  | ':' :: t =>
    let negated := t.head? = some '^'
    let t := if negated then t.drop 1 else t
    match t.dropWhile (· ≠ ':') with
    | ':' :: ']' :: rest =>
      if asciiClasses.contains (t.takeWhile (· ≠ ':')) then some (negated, rest) else none
    | _ => none
  | _ => none

/-- Reads one element of a class, a character or an escape. -/
def element? (f : Flags) : Text → Option (Escape × Text)
  | [] => none
  | '\\' :: t => escape? f t
  | c :: t => some (.literal c, t)

/-- Whether a character may stand in a class; where characters are bytes, only an ASCII one may. -/
def Flags.admits (f : Flags) (c : Char) : Bool := f.unicode || c.toNat < 0x80

/-- Reads an element of a class, or two with a `-` between them for the range from one to the other. -/
def elementOrRange? (f : Flags) (t : Text) : Option Text := do
  let (first, t) ← element? f t
  let t := f.skip t
  let single : Option Text :=
    match first with
    | .literal c => if f.admits c then some t else none
    | .set => some t
    | .place => none
  match t with
  | '-' :: rest =>
    match f.skip rest with
    | [] => none
    | d :: ds =>
      if d = ']' ∨ d = '-' then single
      else
        let (last, t) ← element? f (d :: ds)
        match first, last with
        | .literal a, .literal b =>
          if a.toNat ≤ b.toNat && f.admits a && f.admits b then some t else none
        | _, _ => none
  | [] => none
  | _ => single

/-- What a class holds beyond ASCII, from what stands on both sides of its operators: all of it or
nothing. -/
def join (left : Option (Bool × Joining)) (right : Bool) : Bool :=
  match left with
  | none => right
  | some (l, .both) => l && right
  | some (l, .without) => l && !right
  | some (l, .either) => l != right

/-- The start of a class: a caret, hyphens, and a bracket that stands for itself if nothing is before
it.  Gives whether the class is negated, and what follows. -/
def classStart (f : Flags) (t : Text) : Bool × Text :=
  let t := f.skip t
  let negated := t.head? = some '^'
  let t := if negated then f.skip (t.drop 1) else t
  let hyphens := t.takeWhile (· = '-')
  let t := f.skip (t.dropWhile (· = '-'))
  match hyphens, t with
  | [], ']' :: rest => (negated, f.skip rest)
  | _, _ => (negated, t)

/-- Reads the elements of a class up to its closing bracket.  The state is whether the elements since the
last operator hold what is beyond ASCII, and the same of what stands before that operator; where
characters are bytes, the class as a whole must not. -/
def class? (fuel : Nat) (f : Flags) (negated high : Bool) (left : Option (Bool × Joining))
    (t : Text) : Option Text :=
  match fuel with
  | 0 => none
  | fuel + 1 =>
    match f.skip t with
    | [] => none
    | ']' :: rest => if f.unicode || join left high == negated then some rest else none
    | '[' :: rest =>
      match asciiClass? rest with
      | some (n, rest) => class? fuel f negated (high || n) left rest
      | none =>
        let (n, inner) := classStart f rest
        (class? fuel f n false none inner).bind fun rest => class? fuel f negated high left rest
    | '&' :: '&' :: rest => class? fuel f negated false (some (join left high, .both)) rest
    | '-' :: '-' :: rest => class? fuel f negated false (some (join left high, .without)) rest
    | '~' :: '~' :: rest => class? fuel f negated false (some (join left high, .either)) rest
    | t => (elementOrRange? f t).bind fun rest => class? fuel f negated high left rest

/-! ## Groups -/

/-- What an opening parenthesis begins. -/
inductive Opening where
  /-- A group, with the flags inside it and the names of groups known by then. -/
  | group (f : Flags) (names : List Text) (rest : Text)
  /-- No group, but flags for what follows in the group around it. -/
  | flags (f : Flags) (rest : Text)
  deriving DecidableEq, Repr

/-- Whether a character may stand in the name of a group, and at its start. -/
def isNameCharacter (first : Bool) (c : Char) : Bool :=
  c == '_' || Alphanumeric.isLetter c ||
    (!first && (c == '.' || c == '[' || c == ']' || Alphanumeric.mem c))

/-- Reads the name of a group, up to its closing angle bracket. -/
def name? (t : Text) : Option (Text × Text) :=
  let name := t.takeWhile (· ≠ '>')
  match name, t.dropWhile (· ≠ '>') with
  | c :: cs, '>' :: rest =>
    if isNameCharacter true c && cs.all (isNameCharacter false) then some (name, rest) else none
  | _, _ => none

/-- Reads what follows an opening parenthesis. -/
def opening? (f : Flags) (names : List Text) (t : Text) : Option Opening :=
  match f.skip t with
  | '?' :: '<' :: rest | '?' :: 'P' :: '<' :: rest =>
    match name? rest with
    | some (name, rest) => if names.contains name then none else some (.group f (name :: names) rest)
    | none => none
  | '?' :: rest =>
    match f.read? [] rest with
    | some (inner, some?, ending, rest) =>
      if ending = ':' then some (.group inner names rest)
      else if some? then some (.flags inner rest)
      else none
    | none => none
  | rest => some (.group f names rest)

/-! ## Patterns -/

/-- Whether a literal character needs a table of cases. -/
def Flags.folds (f : Flags) : Bool := f.caseless && f.unicode

/-- Whether a text is the rest of a pattern, with the flags of the groups that are open, the names known
so far, and whether there is something before it that can be repeated. -/
def isRest (fuel : Nat) (outer : List Flags) (f : Flags) (names : List Text) (operand : Bool)
    (t : Text) : Bool :=
  match fuel with
  | 0 => false
  | fuel + 1 =>
    match f.skip t with
    | [] => outer.isEmpty
    | '(' :: rest =>
      match opening? f names rest with
      | some (.group inner names rest) => isRest fuel (f :: outer) inner names false rest
      | some (.flags f rest) => isRest fuel outer f names false rest
      | none => false
    | ')' :: rest =>
      match outer with
      | [] => false
      | f :: outer => isRest fuel outer f names true rest
    | '|' :: rest => isRest fuel outer f names false rest
    | '[' :: rest =>
      let (negated, inner) := classStart f rest
      match class? fuel f negated false none inner with
      | some rest => !f.folds && isRest fuel outer f names true rest
      | none => false
    | '{' :: _ => false
    | '\\' :: rest =>
      match escape? f rest with
      | some (.literal _, rest) => !f.folds && isRest fuel outer f names true rest
      | some (_, rest) => isRest fuel outer f names true rest
      | none => false
    | '.' :: rest => f.unicode && isRest fuel outer f names true rest
    | '^' :: rest | '$' :: rest => isRest fuel outer f names true rest
    | c :: rest =>
      if c = '?' ∨ c = '*' ∨ c = '+' then
        operand && isRest fuel outer f names true (if rest.head? = some '?' then rest.drop 1 else rest)
      else !f.folds && isRest fuel outer f names true rest

/-- Whether a text is a well-formed pattern. -/
def isWellFormed (t : Text) : Bool := isRest (t.length + 1) [] .initial [] false t

end ProgramTrace.Log.Pattern
