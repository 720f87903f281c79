import ProgramTrace.Host.Shell.Act

/-!
# `ProgramTrace.Host.Shell.Input` — lines and options as a shell reads them.

`read` takes a line from standard input and takes it apart into variables; `getopts` takes the next option
from a list of arguments.
-/

namespace ProgramTrace.Host.Shell.Act

/-! ## Lines -/

/-- A line of input as items, whether its end was there, and how many bytes it takes up.  Unless it is
`raw`, a backslash quotes the octet after it and hides a line end. -/
def inputLine (raw : Bool) : Octets → List Item × Bool × Nat
  | [] => ([], false, 0)
  | '\n' :: _ => ([], true, 1)
  | '\x00' :: rest =>
    let (is, ended, n) := inputLine raw rest
    (is, ended, n + 1)
  | ['\\'] => (if raw then [.octet false true '\\'] else [], false, 1)
  | '\\' :: c :: rest =>
    if raw then
      let (is, ended, n) := inputLine raw (c :: rest)
      (.octet false true '\\' :: is, ended, n + 1)
    else
      let (is, ended, n) := inputLine raw rest
      (if c = '\n' then is else .octet true false c :: is, ended, n + 2)
  | c :: rest =>
    let (is, ended, n) := inputLine raw rest
    (.octet false true c :: is, ended, n + 1)

/-- `read`: the status is 1 if the input ended before the line did. -/
def read (arguments : List Octets) : Act Nat := do
  let (found, names) ← options "p:r" arguments
  if names.isEmpty then fail "arg count".toList
  let s ← shell
  let w ← world
  let input := match w.available s.streams 0 with
    | .ok bytes => Octets.ofBytes bytes
    | .error _ => []
  let (is, ended, length) := inputLine (found.any (·.1 = 'r')) input
  modifyWorld fun w => w.consume s.streams 0 length
  let fields := (Item.fields s.separators (some names.length) is).map Pattern.text
  (names.zip (fields ++ List.replicate names.length [])).forM fun (name, t) => assign name t
  return if ended then 0 else 1

/-! ## Options -/

/-- How an option has been found: its letter and its text, which it may have none of, the letters left in
the argument, and how many arguments have been used up. -/
structure FoundOption where
  letter : Char
  text : Option Octets
  /-- How many characters of the last argument used up have been read, if any are left. -/
  offset : Option Nat
  used : Nat
  /-- What is said about it. -/
  remark : Option Octets

/-- Finds the next option in arguments, of which some have been used up; the letters that are looked for
have a colon after them where a text belongs to them. -/
def nextOption? (letters : List Char) (arguments : List Octets) (used : Nat) (offset : Option Nat) :
    Nat × Option FoundOption :=
  let silent := letters.head? = some ':'
  let before : Octets := match offset with
    | some n => ((arguments[used - 1]?).getD []).drop n
    | none => []
  let (t, read, used) : Octets × Nat × Nat :=
    if before ≠ [] then (before, offset.getD 0, used)
    else match arguments[used]? with
      | some ('-' :: c :: more) => (c :: more, 1, used + 1)
      | _ => ([], 0, used)
  match t with
  | [] => (used, none)
  | c :: more =>
    if c = '-' ∧ more = [] ∧ before = [] then (used, none)
    else
      let rest := if more = [] then none else some (read + 1)
      let after := (letters.dropWhile (· ≠ c)).tail
      if c = ':' ∨ !letters.contains c then
        if silent then (used, some ⟨'?', some [c], rest, used, none⟩)
        else (used, some ⟨'?', none, rest, used, some ("Illegal option -".toList ++ [c])⟩)
      else if after.head? = some ':' then
        if more ≠ [] then (used, some ⟨c, some more, none, used, none⟩)
        else match arguments[used]? with
          | some text => (used + 1, some ⟨c, some text, none, used + 1, none⟩)
          | none =>
            if silent then (used, some ⟨':', some [c], none, used, none⟩)
            else
              let remark := "No arg for -".toList ++ c :: " option".toList
              (used, some ⟨'?', none, none, used, some remark⟩)
      else (used, some ⟨c, some [], rest, used, none⟩)

/-- `getopts`: the status is 1 if there are no more options. -/
def nextOption (arguments : List Octets) : Act Nat := do
  match arguments with
  | letters :: name :: rest => do
    let s ← shell
    let list := if rest.isEmpty then s.positional else rest
    let (used, offset) := if list.length < s.optionPlace - 1 then (0, none)
      else (s.optionPlace - 1, s.optionOffset)
    let (used, found) := nextOption? letters list used offset
    let letter := match found with
      | some o => o.letter
      | none => '?'
    match found with
    | some o =>
      match o.remark with
      | some t => say 2 (t ++ ['\n'])
      | none => pure ()
      match o.text with
      | some t => assign "OPTARG".toList t
      | none => modifyShell (·.forget "OPTARG".toList)
    | none => pure ()
    assign "OPTIND".toList (Decimal.ofNat (used + 1))
    assign name [letter]
    modifyShell fun s => { s with
      optionPlace := used + 1
      optionOffset := found.bind (·.offset) }
    return if found.isSome then 0 else 1
  | _ => fail "Usage: getopts optstring var [arg...]".toList

end ProgramTrace.Host.Shell.Act
