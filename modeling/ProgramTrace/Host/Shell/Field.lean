import ProgramTrace.Host.Shell.Pattern

/-!
# `ProgramTrace.Host.Shell.Field` — from the expansion of a word to the texts that it stands for.

An expansion is a list of items: octets, marks where quotes stood, and cuts.  Cuts take it apart into
fields, and so do octets that separate fields where they come from an expansion outside quotes.  A field
that is an open pattern stands for the paths that match it, if there are any.
-/

namespace ProgramTrace.Host.Shell

inductive Item where
  /-- An octet, and whether it is quoted and whether it may separate fields. -/
  | octet (quoted separates : Bool) (c : Char)
  /-- A quote stood here, so that there is a field even if it is empty. -/
  | mark
  /-- Here one field ends and the next one begins. -/
  | cut
  deriving DecidableEq, Repr

namespace Item

def ofText (quoted separates : Bool) (t : Octets) : List Item := t.map (.octet quoted separates)

def pattern (is : List Item) : Pattern :=
  is.filterMap fun i => match i with
    | .octet quoted _ c => some (quoted, c)
    | .cut => some (true, ' ')
    | .mark => none

def text (is : List Item) : Octets := (pattern is).text

end Item

/-! ## Fields -/

/-- Whether an octet is a blank, which separates fields only together with those next to it. -/
def isFieldBlank (c : Char) : Bool := c == ' ' || c == '\t' || c == '\n'

structure Taking where
  /-- The fields that are complete, the last one first. -/
  fields : List Pattern
  /-- The octets of the field that is being taken, the last one first; nothing before its start. -/
  current : Option Pattern
  /-- Whether only blanks have come since the last field ended. -/
  afterBlank : Bool
  /-- How many fields may still end, if that is bounded.  When none may, the last field takes all that is
  left. -/
  room : Option Nat
  /-- How much of the last field stays if nothing but separators follows. -/
  kept : Option Nat

namespace Taking

/-- Takes an octet of the last field, which may be a separator and may be a blank. -/
def takeLast (t : Taking) (isSeparator isBlank : Bool) (x : Bool × Char) : Taking :=
  let current := t.current.getD []
  let t' := { t with current := some (x :: current) }
  if isBlank then { t' with kept := t.kept <|> some current.length }
  else { t' with kept := if isSeparator && t.afterBlank then t.kept else none, afterBlank := false }

/-- Takes an item, where the octets that separate fields are given. -/
def step (separators : Octets) (t : Taking) : Item → Taking
  | .cut => { t with fields := t.current.toList ++ t.fields, current := none, afterBlank := false }
  | .mark => { t with current := some (t.current.getD []), afterBlank := false }
  | .octet quoted separates c =>
    let isSeparator := separates && separators.contains c
    let isBlank := isSeparator && isFieldBlank c
    let taken := { t with current := some ((quoted, c) :: t.current.getD []), afterBlank := false }
    if t.room = some 0 then t.takeLast isSeparator isBlank (quoted, c)
    else if !isSeparator then taken
    else if t.afterBlank then if isBlank then t else { t with afterBlank := false }
    else if isBlank && t.current.isNone then t
    else if t.room = some 1 then
      { taken with
        room := some 0, afterBlank := isBlank, kept := some (t.current.getD []).length }
    else
      { t with
        fields := t.current.getD [] :: t.fields, current := none, afterBlank := isBlank
        room := t.room.map (· - 1) }

def finish (t : Taking) : List Pattern :=
  let last := match t.current, t.kept with
    | some f, some n => if n = 0 then none else some (f.drop (f.length - n))
    | f, _ => f
  (last.toList ++ t.fields).reverse.map List.reverse

end Taking

/-- The fields of items, where the octets that separate fields are given, and a bound on their number. -/
def Item.fields (separators : Octets) (bound : Option Nat) (is : List Item) : List Pattern :=
  (is.foldl (Taking.step separators) ⟨[], none, false, bound, none⟩).finish

/-- The texts that items stand for, where the octets that separate fields are given, and whether paths
are looked for. -/
def textsOf (w : World) (separators : Octets) (findPaths : Bool) (is : List Item) : List Octets :=
  (Item.fields separators none is).flatMap fun f =>
    if findPaths && f.isOpen then
      match f.paths w with
      | [] => [f.text]
      | paths => paths
    else [f.text]

end ProgramTrace.Host.Shell
