import ProgramTrace.Text.Utf8

/-!
# `ProgramTrace.Terminal.Control` — texts without terminal control.

A terminal reads some characters as commands: the ASCII controls, and the sequences that an escape
character opens.  There are two ways to take them out.

* `strip` is for a text as a whole.  Sequences go, complete or cut short, and so does every control
  character but tab, line feed, form feed and carriage return.  One of these four ends the sequence in
  which it is obeyed.
* `stripStream` is for a text on its way to a stream.  There the same four only pause the sequence
  (`Walk.paused`), until a control character that is not shown takes it up again.
-/

namespace ProgramTrace.Terminal

/-- The control characters that move the text on and are kept. -/
def isSpacing (c : Char) : Bool := c == '\t' || c == '\n' || c == '\x0c' || c == '\r'

def isControl (c : Char) : Bool := c.toNat < 0x20 || c.toNat == 0x7F

/-- How far the header of a string opened by `ESC P` has been read. -/
inductive Header where
  | opening
  | parameters
  | intermediates
  deriving DecidableEq, Repr

/-- Where in a control sequence a walk is. -/
inductive Mode where
  | ground
  | escape
  | intermediate
  /-- In a sequence opened by `ESC [`, which a character from `@` to `~` ends. -/
  | sequence
  | header (part : Header)
  -- Only ESC, CAN, SUB or the byte 9C ends this one.
  | string
  /-- In a string opened by `ESC ]`, which BEL ends, and the byte 9C does not. -/
  | command
  deriving DecidableEq, Repr

/-- A character of the header of a string, which goes on until a character from `@` to `~` or one that is
out of place. -/
def Header.absorb (c : Char) (part : Header) : Mode :=
  if c.toNat < 0x30 then .header .intermediates
  else if 0x40 ≤ c.toNat then .string
  else match part with
    | .opening => .header .parameters
    | .parameters => if c.toNat < 0x3C then .header .parameters else .string
    | .intermediates => .string

/-- What a printable ASCII character does inside a sequence: it is never shown. -/
def Mode.absorb (c : Char) : Mode → Mode
  | .ground => .ground
  | .escape =>
    if c.toNat < 0x30 then .intermediate
    else if c = '[' then .sequence
    else if c = ']' then .command
    else if c = 'P' then .header .opening
    else if c = 'X' ∨ c = '^' ∨ c = '_' then .string
    else .ground
  | .intermediate => if c.toNat < 0x30 then .intermediate else .ground
  | .sequence => if c.toNat < 0x40 then .sequence else .ground
  | .header part => part.absorb c
  | .string => .string
  | .command => .command

/-- What a character beyond ASCII does: the byte 9C ends a string even in the middle of a character. -/
def Mode.passBy (c : Char) : Mode → Mode
  | .string => if (String.utf8EncodeChar c).contains 0x9C then .ground else .string
  | m => m

/-- Whether the controls that move the text on are carried out, and so kept. -/
def Mode.obeys : Mode → Bool
  | .header _ | .string | .command => false
  | _ => true

/-- What a control character that is not shown does, ESC, CAN and SUB apart. -/
def Mode.ignore (c : Char) : Mode → Mode
  | .command => if c = '\x07' then .ground else .command
  | m => m

/-! ## Texts as a whole -/

/-- One character further: what is shown for it, and the mode after it. -/
def step (m : Mode) (c : Char) : Text × Mode :=
  if c = '\x1b' then ([], .escape)
  else if c = '\x18' ∨ c = '\x1a' then ([], .ground)
  else if isControl c then
    if isSpacing c && m.obeys then ([c], .ground) else ([], m.ignore c)
  else if m = .ground then ([c], .ground)
  else if 0x80 ≤ c.toNat then ([], m.passBy c)
  else ([], m.absorb c)

/-- What a terminal would show of a text that it meets in mode `m`. -/
def stripFrom (m : Mode) : Text → Text
  | [] => []
  | c :: cs => (step m c).1 ++ stripFrom (step m c).2 cs

def strip (t : Text) : Text := stripFrom .ground t

/-! ## Texts on their way to a stream -/

/-- Where the walk over a stream is: its mode, and whether the sequence of that mode pauses, so that
text is shown in the middle of it. -/
structure Walk where
  mode : Mode
  paused : Bool
  deriving DecidableEq, Repr

def Walk.ground : Walk := ⟨.ground, false⟩

/-- One character further: what is shown for it, and where the walk is after it. -/
def Walk.step (w : Walk) (c : Char) : Text × Walk :=
  if c = '\x1b' then ([], ⟨.escape, false⟩)
  else if c = '\x18' ∨ c = '\x1a' then ([], .ground)
  else if isControl c then
    if isSpacing c && (w.paused || w.mode.obeys) then ([c], ⟨w.mode, true⟩)
    else ([], ⟨w.mode.ignore c, false⟩)
  else if 0x80 ≤ c.toNat then
    if w.paused ∨ w.mode = .ground then ([c], .ground) else ([], ⟨w.mode.passBy c, false⟩)
  else if w.paused ∨ w.mode = .ground then ([c], w)
  else ([], ⟨w.mode.absorb c, false⟩)

/-- What a stream gets of a text from somewhere in a walk on. -/
def Walk.strip (w : Walk) : Text → Text
  | [] => []
  | c :: cs => (w.step c).1 ++ (w.step c).2.strip cs

def stripStream (t : Text) : Text := Walk.ground.strip t

end ProgramTrace.Terminal
