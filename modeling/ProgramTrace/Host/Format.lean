import ProgramTrace.Host.Escape
import ProgramTrace.Host.Real
import ProgramTrace.Text.Decimal

/-!
# `ProgramTrace.Host.Format` — what `printf` prints.

A format is a list of directives: texts and conversions.  The directives are gone over again as long as
arguments are left; a missing argument counts as an empty one.  What is wrong with an argument is said and
the conversion goes on; what is wrong with the format ends everything (`Format.printf`).
-/

namespace ProgramTrace.Host.Format

/-! ## Directives -/

/-- A number in a conversion: it stands there, or it is the next argument. -/
inductive Count where
  | fixed (n : Nat)
  | argument
  deriving DecidableEq, Repr

/-- The directives of a format. -/
inductive Directive where
  | text (t : Octets)
  | conversion (flags : List Char) (width : Option Count) (precision : Option Count) (letter : Char)
  /-- A conversion of an unknown letter. -/
  | unknown (spelling : Octets)
  /-- The format ends in a conversion. -/
  | unfinished
  deriving DecidableEq, Repr

/-- The number that a text begins with, where `*` stands for an argument, and what follows it. -/
def count? (t : Octets) : Option Count × Octets :=
  match t with
  | '*' :: rest => (some .argument, rest)
  | _ =>
    let digits := t.takeWhile Char.isDigit
    ((Decimal.toNat? digits).map .fixed, t.drop digits.length)

/-- The letters of conversions. -/
def letters : List Char := "bcsdiouxXeEfFgG".toList

/-- The directives of a text. -/
def directives : Nat → Octets → List Directive
  | 0, _ => []
  | _, [] => []
  | fuel + 1, '%' :: '%' :: rest => .text ['%'] :: directives fuel rest
  | fuel + 1, '%' :: after =>
    let flags := after.takeWhile fun c => "#-+ 0".toList.contains c
    let (width, rest) := count? (after.drop flags.length)
    let (precision, rest) := match rest with
      | '.' :: rest =>
        let (n, rest) := count? rest
        (some (n.getD (.fixed 0)), rest)
      | _ => (none, rest)
    match rest with
    | [] => [.unfinished]
    | c :: rest =>
      if letters.contains c then .conversion flags width precision c :: directives fuel rest
      else [.unknown ('%' :: after.take (after.length - rest.length))]
  | fuel + 1, '\\' :: rest =>
    let (c, rest) := Escape.read rest
    .text [c] :: directives fuel rest
  | fuel + 1, c :: rest => .text [c] :: directives fuel rest

/-! ## Numbers -/

/-- What a text is as a number: the number, what follows it, and whether it is too large for its type. -/
structure Reading (α : Type) where
  value : α
  rest : Octets
  tooLarge : Bool

/-- The value of a digit in any base up to sixteen. -/
def digitOf (c : Char) : Nat :=
  if c.isDigit then c.toNat - '0'.toNat
  else if c.isAlpha then c.toLower.toNat - 'a'.toNat + 10
  else 99

/-- Reads the digits of a base: their number, whether there are any, and what follows them. -/
def digitsOf (base : Nat) (t : Octets) : Nat × Bool × Octets :=
  let digits := t.takeWhile (digitOf · < base)
  (digits.foldl (fun n c => n * base + digitOf c) 0, digits ≠ [], t.drop digits.length)

/-- The sign of a text after the white space at its start. -/
def signOf (t : Octets) : Bool × Octets :=
  match t.dropWhile fun c => c = ' ' || ('\t' ≤ c && c ≤ '\r') with
  | '-' :: rest => (true, rest)
  | '+' :: rest => (false, rest)
  | rest => (false, rest)

/-- A text as a 64-bit word, with a sign or without. -/
def integer (signed : Bool) (t : Octets) : Reading Int :=
  let (negative, digits) := signOf t
  let (n, found, rest) := match digits with
    | '0' :: x :: d :: rest =>
      if (x = 'x' ∨ x = 'X') ∧ digitOf d < 16 then digitsOf 16 (d :: rest) else digitsOf 8 digits
    | '0' :: _ => digitsOf 8 digits
    | _ => digitsOf 10 digits
  if !found then ⟨0, t, false⟩
  else if signed then
    if negative then
      if Nat.pow 2 63 < n then ⟨-(Nat.pow 2 63 : Int), rest, true⟩ else ⟨-(n : Int), rest, false⟩
    else if Nat.pow 2 63 ≤ n then ⟨(Nat.pow 2 63 : Int) - 1, rest, true⟩ else ⟨n, rest, false⟩
  else if Nat.pow 2 64 ≤ n then ⟨(Nat.pow 2 64 : Int) - 1, rest, true⟩
  else ⟨if negative then ((Nat.pow 2 64 : Int) - n) % Nat.pow 2 64 else n, rest, false⟩

/-- A text as a number with a sign and a decimal notation. -/
def real (t : Octets) : Reading (Bool × Real) :=
  let (negative, digits) := signOf t
  let lower := digits.map Char.toLower
  if "infinity".toList.isPrefixOf lower then ⟨(negative, .infinite), digits.drop 8, false⟩
  else if "inf".toList.isPrefixOf lower then ⟨(negative, .infinite), digits.drop 3, false⟩
  else if "nan".toList.isPrefixOf lower then ⟨(negative, .undefined), digits.drop 3, false⟩
  else
    let (base, bodyOf) := match lower with
      | '0' :: 'x' :: _ => (16, digits.drop 2)
      | _ => (10, digits)
    let whole := bodyOf.takeWhile (digitOf · < base)
    let (fraction, rest) := match bodyOf.drop whole.length with
      | '.' :: rest => (rest.takeWhile (digitOf · < base), rest.dropWhile (digitOf · < base))
      | rest => ([], rest)
    if whole = [] ∧ fraction = [] then ⟨(false, .finite 0 1), t, false⟩
    else
      let (exponent, rest) : Int × Octets := match rest with
        | e :: more =>
          let (down, digits) := match more with
            | '-' :: digits => (true, digits)
            | '+' :: digits => (false, digits)
            | digits => (false, digits)
          let (n, found, left) := digitsOf 10 digits
          if e.toLower = (if base = 16 then 'p' else 'e') ∧ found then
            (if down then -(n : Int) else n, left)
          else (0, rest)
        | [] => (0, rest)
      let n := (whole ++ fraction).foldl (fun n c => n * base + digitOf c) 0
      if base = 16 then
        let e := exponent - 4 * (fraction.length : Int)
        ⟨(negative, if 0 ≤ e then .finite (n * Nat.pow 2 (min e 2000).toNat) 1
          else .finite n (Nat.pow 2 (min (-e) 2000).toNat)), rest, false⟩
      else
        let e := exponent - (fraction.length : Int)
        let v := Real.nearest n (e < 0) e.natAbs
        ⟨(negative, v), rest, v = .infinite⟩

/-- What is said about a text as a number, if anything is wrong with it. -/
def Reading.complaint? (t : Octets) (r : Reading α) : Option Octets :=
  if r.rest ≠ [] then
    some (t ++ (if r.rest = t then ": expected numeric value" else ": not completely converted").toList)
  else if r.tooLarge then some (t ++ ": Numerical result out of range".toList)
  else none

/-! ## Conversions -/

/-- What has been printed, what has been said, and the arguments left. -/
structure Progress where
  printed : Octets
  complaints : List Octets
  arguments : List Octets
  /-- The status with which everything has ended, if it has. -/
  ended : Option Nat

namespace Progress

/-- Prints a text. -/
def print (p : Progress) (t : Octets) : Progress := { p with printed := p.printed ++ t }

/-- Says something. -/
def complain (p : Progress) : Option Octets → Progress
  | some t => { p with complaints := p.complaints ++ [t] }
  | none => p

/-- The next argument as an integer. -/
def takeInteger (p : Progress) (signed : Bool) : Int × Progress :=
  match p.arguments with
  | [] => (0, p)
  | t :: rest =>
    let p := { p with arguments := rest }
    match t with
    | '\'' :: more | '"' :: more => ((more.headD '\x00').toNat, p)
    | _ =>
      let r := integer signed t
      (r.value, p.complain (r.complaint? t))

/-- The next argument as a number with a decimal notation. -/
def takeReal (p : Progress) : (Bool × Real) × Progress :=
  match p.arguments with
  | [] => ((false, .finite 0 1), p)
  | t :: rest =>
    let p := { p with arguments := rest }
    match t with
    | '\'' :: more | '"' :: more => ((false, .finite (more.headD '\x00').toNat 1), p)
    | _ =>
      let r := real t
      (r.value, p.complain (r.complaint? t))

/-- The number that a count stands for. -/
def takeCount (p : Progress) : Option Count → Option Int × Progress
  | none => (none, p)
  | some (.fixed n) => (some n, p)
  | some .argument =>
    let (n, p) := p.takeInteger true
    (some n, p)

end Progress

/-- A text moved to one side of a width; zeros go between a sign and the digits. -/
def aligned (flags : List Char) (width : Int) (zeros : Bool) (sign t : Octets) : Octets :=
  let gap := width.natAbs - (sign.length + t.length)
  if flags.contains '-' || width < 0 then sign ++ t ++ List.replicate gap ' '
  else if zeros && flags.contains '0' then sign ++ List.replicate gap '0' ++ t
  else List.replicate gap ' ' ++ sign ++ t

/-- The sign that is shown before a number. -/
def shownSign (flags : List Char) (negative : Bool) : Octets :=
  if negative then ['-']
  else if flags.contains '+' then ['+']
  else if flags.contains ' ' then [' ']
  else []

/-- An integer in the notation of a letter, with the digits that a precision asks for: what comes before
its digits, and the digits. -/
def integerText (flags : List Char) (precision : Option Nat) (letter : Char) (n : Int) :
    Octets × Octets :=
  let base := if letter = 'o' then 8 else if letter = 'x' ∨ letter = 'X' then 16 else 10
  let digits := Nat.toDigits base n.natAbs
  let digits := if letter = 'X' then digits.map Char.toUpper else digits
  let digits := if n = 0 ∧ precision = some 0 then [] else digits
  let digits := List.replicate (precision.getD 1 - digits.length) '0' ++ digits
  let digits := if flags.contains '#' ∧ letter = 'o' ∧ digits.head? ≠ some '0' then '0' :: digits
    else digits
  let before :=
    if letter = 'd' ∨ letter = 'i' then shownSign flags (n < 0)
    else if flags.contains '#' ∧ base = 16 ∧ n ≠ 0 then ['0', letter]
    else []
  (before, digits)

/-- Carries out a directive. -/
def Progress.step (p : Progress) : Directive → Progress
  | .text t => p.print t
  | .unknown spelling =>
    { p.complain (some (spelling ++ ": invalid directive".toList)) with ended := some 2 }
  | .unfinished => { p.complain (some "missing format character".toList) with ended := some 2 }
  | .conversion flags width precision letter =>
    let (width, p) := p.takeCount width
    let (precision, p) := p.takeCount precision
    let width := width.getD 0
    let precision := precision.bind fun n => if n < 0 then none else some n.toNat
    let limited (t : Octets) : Octets := match precision with
      | some n => t.take n
      | none => t
    if letter = 'b' then
      let (t, ended) := Escape.carriedOut (p.arguments.headD [])
      let p := p.print (aligned flags width false [] (limited t))
      { p with arguments := p.arguments.tail, ended := if ended then some 0 else none }
    else if letter = 's' then
      let p := p.print (aligned flags width false [] (limited (p.arguments.headD [])))
      { p with arguments := p.arguments.tail }
    else if letter = 'c' then
      let p := p.print (aligned flags width false [] [(p.arguments.headD []).headD '\x00'])
      { p with arguments := p.arguments.tail }
    else if "diouxX".toList.contains letter then
      let (n, p) := p.takeInteger (letter = 'd' || letter = 'i')
      let (before, digits) := integerText flags precision letter n
      p.print (aligned flags width precision.isNone before digits)
    else
      let ((negative, v), p) := p.takeReal
      let t := v.shown letter.toLower (precision.getD 6) (flags.contains '#')
      let t := if letter.isUpper then t.map Char.toUpper else t
      let isFinite := match v with
        | .finite .. => true
        | _ => false
      p.print (aligned flags width isFinite (shownSign flags negative) t)

/-- Carries out directives, up to the end of everything. -/
def Progress.run (p : Progress) (ds : List Directive) : Progress :=
  ds.foldl (fun p d => if p.ended.isSome then p else p.step d) p

/-- Goes over directives until no argument is left, or none is taken. -/
def Progress.rounds (ds : List Directive) : Nat → Progress → Progress
  | 0, p => p
  | fuel + 1, p =>
    let q := p.run ds
    if q.ended.isSome || q.arguments.isEmpty || q.arguments.length == p.arguments.length then q
    else rounds ds fuel q

/-- What `printf` prints and says for a format and its arguments, and its status. -/
def printf (form : Octets) (arguments : List Octets) : Octets × List Octets × Nat :=
  let p := Progress.rounds (directives (form.length + 1) form) (arguments.length + 1)
    ⟨[], [], arguments, none⟩
  (p.printed, p.complaints, p.ended.getD (if p.complaints.isEmpty then 0 else 1))

end ProgramTrace.Host.Format
