import ProgramTrace.Host.Shell.Act
import ProgramTrace.Host.Shell.Arithmetic

/-!
# `ProgramTrace.Host.Shell.Expansion` — what words stand for.

A word is expanded into items from left to right, since an expansion can set variables for those after it.
How the output of a script is found is given, so that nothing here starts a command.  A word of a command
becomes fields (`arguments`); elsewhere it becomes one text (`textOf`), and then lists of arguments are
joined.
-/

namespace ProgramTrace.Host.Shell

namespace Act

/-- What ends a shell in which a parameter has to be set. -/
def unset (name : Octets) : Act α := failAbout name ": parameter not set"

/-! ## Lists of arguments -/

/-- Whether a parameter is the list of all arguments. -/
def isArgumentList (name : Octets) : Bool := name = ['@'] || name = ['*']

/-- The arguments as one text. -/
def joinedArguments (s : State) : Octets := (s.separators.take 1).intercalate s.positional

/-- The items of the list of all arguments, as fields or as one text. -/
def argumentItems (s : State) (name : Octets) (quoted fields : Bool) : List Item :=
  if !fields || (quoted && name = ['*']) then Item.ofText quoted (!quoted) (joinedArguments s)
  else
    [Item.cut].intercalate (s.positional.map fun a =>
      if quoted then .mark :: Item.ofText true false a else Item.ofText false true a)

/-! ## Home directories -/

/-- The home directory of a name, where no name is the user's own. -/
def homeOf? (s : State) (name : Octets) : Option Octets :=
  if name = [] then s.valueOf? "HOME".toList
  else if name = "root".toList then some "/root".toList
  else none

/-- A text with the name of a home directory at its start replaced, as far as the name goes, if it is
known where the name ends. -/
def home? (s : State) (endsHere : Bool) (isEnd : Char → Bool) : Octets → Option (Octets × Octets)
  | '~' :: t =>
    let name := t.takeWhile fun c => !isEnd c
    if name.length < t.length ∨ endsHere then (homeOf? s name).map fun h => (h, t.drop name.length)
    else none
  | _ => none

/-- A word with the home directories in it replaced: at its start and, in an assignment, after each
colon. -/
def withHomes (s : State) (assigns : Bool) : Word → Word
  | .text false t :: rest =>
    let isEnd (c : Char) : Bool := c == '/' || (assigns && c == ':')
    let parts := if assigns then Text.parts ':' t else [t]
    let shown := parts.zipIdx.map fun (p, i) =>
      match home? s (rest.isEmpty || i + 1 < parts.length) isEnd p with
      | some (h, left) => [Piece.text true h, .text false left]
      | none => [Piece.text false p]
    [Piece.text false [':']].intercalate shown ++ rest
  | w => w

/-! ## Pieces and words -/

/-- The value of an expression, after which its variables are set. -/
def calculate (t : Octets) : Act Octets := do
  let s ← shell
  match Arithmetic.calculate s.valueOf? t with
  | .error e => fail (e.message t)
  | .ok (n, settings) =>
    settings.reverse.forM fun (name, n) => assign name (Decimal.ofInt n.toInt)
    return Decimal.ofInt n.toInt

/-- The output of a script without the line ends after it and without NUL. -/
def outputText (t : Octets) : Octets :=
  (t.filter (· ≠ '\x00')).reverse.dropWhile (· = '\n') |>.reverse

mutual

/-- The items of a piece, as fields or as one text.  Within the word of an expansion, unquoted texts can be
taken apart too. -/
def pieceItems (output : Nat → Octets → Act Octets) (fields inner : Bool) : Piece → Act (List Item)
  | .text quoted t =>
    return if quoted then .mark :: Item.ofText true false t else Item.ofText false inner t
  | .substitution quoted line script => do
    let t ← output line script
    return Item.ofText quoted (!quoted) (outputText t)
  | .arithmetic quoted expression => do
    let t ← calculate (Item.text (← wordItems output false false expression))
    return Item.ofText quoted (!quoted) t
  | .parameter quoted name use word => do
    let s ← shell
    let value? := if isArgumentList name then some (joinedArguments s) else s.parameter? name
    let items (t : Octets) : List Item :=
      if isArgumentList name then argumentItems s name quoted fields else Item.ofText quoted (!quoted) t
    let found (orEmpty : Bool) : Option Octets := value?.filter fun t => !(orEmpty && t.isEmpty)
    let needed : Act Octets :=
      match value? with
      | some t => return t
      | none => if s.has 'u' then unset name else return []
    match use with
    | .unknown => fail "Bad substitution".toList
    | .value => return items (← needed)
    | .length => return Item.ofText quoted (!quoted) (Decimal.ofNat (← needed).length)
    | .otherwise orEmpty =>
      match found orEmpty with
      | some t => return items t
      | none => wordItems output fields (!quoted) word
    | .alternative orEmpty =>
      match found orEmpty with
      | some _ => wordItems output fields (!quoted) word
      | none => return []
    | .assign orEmpty =>
      match found orEmpty with
      | some t => return items t
      | none =>
        let t := Item.text (← wordItems output false false word)
        assign name t
        return Item.ofText quoted (!quoted) t
    | .demand orEmpty =>
      match found orEmpty with
      | some t => return items t
      | none =>
        if word.isEmpty then
          failAbout name (if orEmpty then ": parameter not set or null" else ": parameter not set")
        else fail (name ++ ": ".toList ++ Item.text (← wordItems output false false word))
    | .trim atEnd longest =>
      let t ← needed
      let p := Item.pattern (← wordItems output false false word)
      return Item.ofText quoted (!quoted) (p.trim atEnd longest t)

/-- The items of a word. -/
def wordItems (output : Nat → Octets → Act Octets) (fields inner : Bool) : List Piece → Act (List Item)
  | [] => return []
  | p :: ps => do
    let first ← pieceItems output fields inner p
    return first ++ (← wordItems output fields inner ps)

end

/-- The items of a word, in which home directories are replaced first. -/
def items (output : Nat → Octets → Act Octets) (fields assigns : Bool) (w : Word) :
    Act (List Item) := do
  let s ← shell
  wordItems output fields false (withHomes s assigns w)

/-- The text that a word stands for. -/
def textOf (output : Nat → Octets → Act Octets) (w : Word) : Act Octets :=
  return Item.text (← items output false false w)

/-- The fields that a word stands for. -/
def arguments (output : Nat → Octets → Act Octets) (w : Word) : Act (List Octets) := do
  let is ← items output true false w
  let s ← shell
  return textsOf (← world) s.separators (!s.has 'f') is

end Act

end ProgramTrace.Host.Shell
