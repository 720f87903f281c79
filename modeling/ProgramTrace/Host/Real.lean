import ProgramTrace.Text.Decimal

/-!
# `ProgramTrace.Host.Real` — decimal notation of binary numbers.

A finite binary number is a numerator over a denominator, so its decimal digits are found by exact
division; a half goes to the even neighbour.  Notations are fixed (`fixed`), scientific (`scientific`), or
the shorter of the two (`general`).
-/

namespace ProgramTrace.Host

/-- A number without its sign, as `printf` gets it. -/
inductive Real where
  | finite (numerator denominator : Nat)
  | infinite
  | undefined
  deriving DecidableEq, Repr

namespace Real

/-- A quotient, rounded to the nearest number and to an even one from halfway. -/
def roundedQuotient (n d : Nat) : Nat :=
  let q := n / d
  let twice := 2 * (n % d)
  if twice < d ∨ (twice = d ∧ q % 2 = 0) then q else q + 1

/-- The number nearest to a numerator over a power of ten that has a double. -/
def nearest (digits : Nat) (negativeExponent : Bool) (exponent : Nat) : Real :=
  let f := Float.ofScientific digits negativeExponent (min exponent 100000)
  let bits := f.toBits.toNat
  let mantissa := bits % Nat.pow 2 52
  let e := bits / Nat.pow 2 52 % 2048
  if e = 2047 then .infinite
  else
    let (m, e) := if e = 0 then (mantissa, 1) else (mantissa + Nat.pow 2 52, e)
    if 1075 ≤ e then .finite (m * Nat.pow 2 (e - 1075)) 1 else .finite m (Nat.pow 2 (1075 - e))

/-! ## Notations -/

/-- Digits with a point before the last few of them; the point stays without digits after it only with
`keepsPoint`. -/
def pointed (digits places : Nat) (keepsPoint : Bool) : Text :=
  let t := Decimal.padded (places + 1) digits
  let whole := t.take (t.length - places)
  let rest := t.drop (t.length - places)
  if rest = [] ∧ !keepsPoint then whole else whole ++ '.' :: rest

/-- Fixed notation, with a number of places after the point. -/
def fixed (n d places : Nat) (keepsPoint : Bool) : Text :=
  pointed (roundedQuotient (n * Nat.pow 10 places) d) places keepsPoint

/-- The exponent of a number other than zero: that of the greatest power of ten not above it. -/
def exponentOf (n d : Nat) : Int :=
  let up := (Nat.toDigits 10 (n / d)).length
  if d ≤ n then up - 1
  else
    let down := (Nat.toDigits 10 (d / n)).length
    if d ≤ n * Nat.pow 10 (down - 1) then -((down : Int) - 1) else -(down : Int)

/-- The digits and the exponent of a number in scientific notation, with a number of places. -/
def scientificDigits (n d places : Nat) : Nat × Int :=
  if n = 0 then (0, 0)
  else
    let e := exponentOf n d
    let shift := (places : Int) - e
    let q := if 0 ≤ shift then roundedQuotient (n * Nat.pow 10 shift.toNat) d
      else roundedQuotient n (d * Nat.pow 10 (-shift).toNat)
    if Nat.pow 10 (places + 1) ≤ q then (Nat.pow 10 places, e + 1) else (q, e)

/-- An exponent, with its sign and at least two digits. -/
def exponentText (e : Int) : Text :=
  'e' :: (if e < 0 then '-' else '+') :: Decimal.padded 2 e.natAbs

/-- Scientific notation, with a number of places after the point. -/
def scientific (n d places : Nat) (keepsPoint : Bool) : Text :=
  let (digits, e) := scientificDigits n d places
  pointed digits places keepsPoint ++ exponentText e

/-- A text with a point in it without the zeros at its end, and without the point if nothing is left after
it. -/
def withoutZeros (t : Text) : Text :=
  if t.contains '.' then
    let t := t.reverse.dropWhile (· = '0')
    (if t.head? = some '.' then t.tail else t).reverse
  else t

/-- The notation with a number of digits that is the shorter one; zeros at the end are left out unless
`keepsPoint` is set. -/
def general (n d digits : Nat) (keepsPoint : Bool) : Text :=
  let digits := max digits 1
  let (q, e) := scientificDigits n d (digits - 1)
  let trim (t : Text) : Text := if keepsPoint then t else withoutZeros t
  if -4 ≤ e ∧ e < digits then
    let places := ((digits : Int) - 1 - e).toNat
    trim (fixed n d places keepsPoint)
  else trim (pointed q (digits - 1) keepsPoint) ++ exponentText e

/-- A number in the notation that a letter of `printf` asks for, without its sign. -/
def shown (letter : Char) (precision : Nat) (keepsPoint : Bool) : Real → Text
  | .finite n d =>
    if letter = 'f' then fixed n d precision keepsPoint
    else if letter = 'e' then scientific n d precision keepsPoint
    else general n d precision keepsPoint
  | .infinite => "inf".toList
  | .undefined => "nan".toList

end Real

end ProgramTrace.Host
