import ProgramTrace.Log.Event
import ProgramTrace.Log.Pattern

/-!
# `ProgramTrace.Log.Filter` — which events are logged.

A filter is a list of directives, written as a list between commas: a level, an origin, or an origin and
a level, and a part in brackets that restricts a directive to spans and fields.  Of the directives that
concern an event, the one with the longest origin decides, then the one with most fields, then the later
one; an event that none concerns is not logged.  A list without a directive lets errors through, and a
list that cannot be read counts as `warn`.
-/

namespace ProgramTrace.Log

/-! ## Directives -/

/-- A field that a directive asks for, and whether it asks for a value of it. -/
structure FieldMatch where
  name : Text
  hasValue : Bool
  deriving DecidableEq, Repr

/-- A directive: what it concerns, and the finest rank that it lets through. -/
structure Directive where
  origin : Option Text
  span : Option Text
  fields : List FieldMatch
  rank : Nat
  deriving DecidableEq, Repr

/-- The rank that lets everything through. -/
def finestRank : Nat := 5

namespace Directive

/-- A number with an optional plus sign. -/
def number? (t : Text) : Option Nat :=
  match t with
  | '+' :: rest => Decimal.toNat? rest
  | _ => Decimal.toNat? t

/-- A text with its ASCII capitals in lower case. -/
def lower (t : Text) : Text := t.map Char.toLower

/-- The names of the ranks, from `off` on. -/
def rankNames : List Text :=
  ["off".toList, "error".toList, "warn".toList, "info".toList, "debug".toList, "trace".toList]

/-- The rank that a level of a directive stands for: a name in any case, or a number. -/
def rank? (t : Text) : Option Nat :=
  match number? t with
  | some n => if n ≤ finestRank then some n else none
  | none => if t = [] then some Level.error.rank else rankNames.idxOf? (lower t)

/-- A text without the digits at its start. -/
def dropDigits (t : Text) : Text := t.dropWhile Char.isDigit

/-- Whether a text is a fraction or nothing, with an exponent or none: what may follow the digits of a
number. -/
def endsNumber (t : Text) : Bool :=
  let t := if t.head? = some '.' then dropDigits (t.drop 1) else t
  match t with
  | [] => true
  | 'e' :: rest | 'E' :: rest =>
    let rest := if rest.head? = some '+' ∨ rest.head? = some '-' then rest.drop 1 else rest
    !rest.isEmpty && rest.all Char.isDigit
  | _ => false

/-- Whether a text without a sign is a number, which may be infinite or undefined. -/
def isNumber (t : Text) : Bool :=
  ["inf".toList, "infinity".toList, "nan".toList].contains (lower t) ||
    ((t.head?.any Char.isDigit || ((t.drop 1).head?.any Char.isDigit && t.head? = some '.')) &&
      endsNumber (dropDigits t))

/-- Whether a value can be asked for: a number, or else a pattern.  Of the numbers only those with a plus
sign are no patterns as well. -/
def isValue (t : Text) : Bool :=
  (t.head? = some '+' && isNumber (t.drop 1)) || Pattern.isWellFormed t

/-- Reads a field that a directive asks for: its name, and what stands between the first `=` and the
second, if anything, for its value. -/
def field? (t : Text) : Option FieldMatch :=
  match t.dropWhile (· ≠ '=') with
  | [] => some ⟨t, false⟩
  | _ :: rest =>
    if isValue (rest.takeWhile (· ≠ '=')) then some ⟨t.takeWhile (· ≠ '='), true⟩ else none

/-! ## Reading one directive -/

/-- How far a directive has been read.  A number is the place at which the part being read begins, counted
in bytes. -/
inductive Stage where
  | start
  | levelOrOrigin (begin : Nat)
  | span (begin : Nat)
  | field (begin : Nat)
  | fieldsDone
  | spanDone
  | level (begin : Nat)
  deriving DecidableEq, Repr

/-- Whether a directive can begin with a character. -/
def canBegin (c : Char) : Bool := c == '-' || c == ':' || c == '_' || Alphanumeric.mem c

/-- The part of a text between two places, if these do not cut a character. -/
def slice? (whole : Text) (first last : Nat) : Option Text :=
  (whole.takeBytes? last).bind (·.dropBytes? first)

/-- One character further, at place `i`. -/
def advance (whole : Text) (i : Nat) (c : Char) (d : Directive) :
    Stage → Option (Directive × Stage)
  | .start =>
    if c = '[' then some (d, .span (i + 1))
    else if canBegin c then some (d, .levelOrOrigin i) else none
  | .levelOrOrigin b =>
    if c = '=' then
      (slice? whole b i).map fun part => ({ d with origin := some part }, .level (i + 1))
    else if c = '[' then
      (slice? whole b i).map fun part => ({ d with origin := some part }, .span (i + 1))
    else some (d, .levelOrOrigin b)
  | .span b =>
    if c = ']' then (slice? whole b i).map fun part => ({ d with span := some part }, .spanDone)
    else if c = '\x7b' then
      (slice? whole b i).map fun part =>
        ({ d with span := if part = [] then none else some part }, .field (i + 1))
    else some (d, .span b)
  | .field b =>
    if c = '\x7d' then
      (slice? whole b i).bind fun part =>
        if part = [] then none
        else (field? part).map fun f => ({ d with fields := d.fields ++ [f] }, .fieldsDone)
    else some (d, .field b)
  | .fieldsDone => if c = ']' then some (d, .spanDone) else none
  | .spanDone => if c = '=' then some (d, .level (i + 1)) else none
  | .level b => some (d, .level b)

/-- Reads the characters of a directive from place `i` on. -/
def readFrom (whole : Text) (i : Nat) (d : Directive) (stage : Stage) :
    Text → Option (Directive × Stage)
  | [] => some (d, stage)
  | c :: cs =>
    match advance whole i c d stage with
    | some (d, stage) => readFrom whole (i + c.utf8Size) d stage cs
    | none => none

/-- A directive that ends with a part which is its level or its origin. -/
def withLevelOrOrigin (d : Directive) (part : Text) : Directive :=
  match rank? part with
  | some r => { d with rank := r, origin := none }
  | none => { d with rank := finestRank, origin := some part }

/-- A directive that ends with its level, which may be left out. -/
def withLevel? (d : Directive) (part : Text) : Option Directive :=
  if part = [] then some { d with rank := finestRank }
  else (rank? part).map fun r => { d with rank := r }

/-- Reads a directive.  Places are counted without the white space before it, and parts are taken from
the text with it. -/
def read? (t : Text) : Option Directive :=
  match readFrom t 0 ⟨none, none, [], finestRank⟩ .start (Blank.trim t) with
  | some (d, .levelOrOrigin b) => (t.dropBytes? b).map d.withLevelOrOrigin
  | some (d, .level b) => (t.dropBytes? b).bind d.withLevel?
  | some (d, .spanDone) => some d
  | _ => none

/-! ## What a directive concerns -/

/-- Whether a directive concerns the events of an origin.  Events happen outside all spans and have one
field, their message. -/
def concerns (d : Directive) (origin : Text) : Bool :=
  d.span.isNone && d.fields.all (fun f => f.name == "message".toList && !f.hasValue) &&
    d.origin.all (·.isPrefixOf origin)

/-- How special a directive is. -/
def weight (d : Directive) : Nat × Nat :=
  ((d.origin.map (·.toUtf8.length + 1)).getD 0, d.fields.length)

/-- Whether a directive gives way to another one that stands after it. -/
def yields (d e : Directive) : Bool :=
  d.weight.1 < e.weight.1 || (d.weight.1 == e.weight.1 && d.weight.2 ≤ e.weight.2)

end Directive

/-! ## Filters -/

/-- A filter is the list of its directives. -/
abbrev Filter := List Directive

namespace Filter

/-- The filter that lets events of a rank through, whatever their origin. -/
def upTo (rank : Nat) : Filter := [⟨none, none, [], rank⟩]

/-- A list of texts between commas. -/
def pieces : Text → List Text
  | [] => [[]]
  | c :: cs =>
    if c = ',' then [] :: pieces cs
    else match pieces cs with
      | [] => [[c]]
      | p :: ps => (c :: p) :: ps

/-- Reads a filter. -/
def read? (t : Text) : Option Filter :=
  match ((pieces t).filter (· ≠ [])).mapM Directive.read? with
  | some [] => some (upTo Level.error.rank)
  | ds => ds

/-- The filter of a setting, which is `warn` if there is none or if it cannot be read. -/
def ofSetting (setting : Option Text) : Filter :=
  (setting.bind read?).getD (upTo Level.warn.rank)

/-- The directive that decides about an origin. -/
def deciding? (f : Filter) (origin : Text) : Option Directive :=
  (f.filter (·.concerns origin)).foldl
    (fun best d => if best.all (·.yields d) then some d else best) none

/-- Whether an event is logged. -/
def lets (f : Filter) (e : Event) : Bool :=
  match f.deciding? e.origin with
  | some d => e.level.rank ≤ d.rank
  | none => false

end Filter

end ProgramTrace.Log
