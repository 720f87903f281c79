import ProgramTrace.Host.Octet

/-!
# `ProgramTrace.Host.Shell.Arithmetic` — the expressions that a shell calculates with.

An expression is calculated while it is read, since an error in it is that which comes first.  Values are
64-bit words, on which arithmetic wraps and division truncates.  A part whose value is not needed, after
`&&`, `||` or `?`, is read without being calculated: it sets no variable and divides by nothing.
-/

namespace ProgramTrace.Host.Shell.Arithmetic

/-! ## Numbers -/

/-- The value of a digit in any base. -/
def digitOf (c : Char) : Nat :=
  if c.isDigit then c.toNat - '0'.toNat
  else if c.isAlpha then c.toLower.toNat - 'a'.toNat + 10
  else 99

/-- Reads digits: hexadecimal after `0x`, octal after `0`, otherwise decimal.  Gives the number and what
follows it. -/
def unsigned (t : Octets) : Nat × Octets :=
  let read (base : Nat) (t : Octets) : Nat × Octets :=
    let digits := t.takeWhile fun c => digitOf c < base
    (digits.foldl (fun n c => n * base + digitOf c) 0, t.drop digits.length)
  match t with
  | '0' :: x :: d :: rest =>
    if (x = 'x' ∨ x = 'X') ∧ digitOf d < 16 then read 16 (d :: rest) else read 8 t
  | '0' :: _ => read 8 t
  | _ => read 10 t

/-- The greatest value. -/
def greatest : Nat := Nat.pow 2 63 - 1

/-- Whether a character is white space around a number. -/
def isBlank (c : Char) : Bool := c == ' ' || ('\t' ≤ c && c ≤ '\r')

/-- The value of a variable as a number: digits with an optional sign, and white space around them.  A
blank value is zero. -/
def valueOf? (t : Octets) : Option Int64 :=
  let t' := t.dropWhile isBlank
  let (negative, digits) := match t' with
    | '-' :: rest => (true, rest)
    | '+' :: rest => (false, rest)
    | rest => (false, rest)
  if digits.head?.any Char.isDigit then
    let (n, rest) := unsigned digits
    if !rest.all isBlank || (if negative then greatest + 1 < n else greatest < n) then none
    else some (if negative then -Int64.ofNat n else Int64.ofNat n)
  else if t.all isBlank then some 0
  else none

/-! ## Symbols -/

/-- The symbols of an expression. -/
inductive Symbol where
  | number (n : Int64)
  | name (t : Octets)
  | operator (t : Octets)
  /-- An operator with an equals sign after it, which changes a variable. -/
  | change (t : Octets)
  /-- A character that has no meaning. -/
  | unknown
  deriving DecidableEq, Repr

/-- The operators between two values, each with its rank; a lower one binds tighter. -/
def ranks : List (Octets × Nat) :=
  [("*", 0), ("/", 0), ("%", 0), ("+", 1), ("-", 1), ("<<", 2), (">>", 2), ("<=", 3), (">=", 3),
    ("<", 3), (">", 3), ("==", 4), ("!=", 4), ("&", 5), ("^", 6), ("|", 7)].map
    fun (o, n) => (o.toList, n)

/-- The operators that can change a variable. -/
def changing : List Octets := ["<<", ">>", "*", "/", "%", "+", "-", "&", "^", "|"].map String.toList

/-- All operators, longer ones first. -/
def operators : List Octets :=
  ["<<", ">>", "<=", ">=", "==", "!=", "&&", "||"].map String.toList ++
    "+-*/%<>&|^!~()?:=".toList.map ([·])

/-- The symbols of a text. -/
def symbols : Nat → Octets → List Symbol
  | 0, _ => []
  | _, [] => []
  | fuel + 1, c :: rest =>
    if c = ' ' ∨ c = '\t' ∨ c = '\n' then symbols fuel rest
    else if c.isDigit then
      let (n, left) := unsigned (c :: rest)
      .number (Int64.ofNat (min n greatest)) :: symbols fuel left
    else if c.isAlpha || c == '_' then
      let name := (c :: rest).takeWhile fun c => c.isAlphanum || c == '_'
      .name name :: symbols fuel ((c :: rest).drop name.length)
    else
      match changing.find? fun o => (o ++ ['=']).isPrefixOf (c :: rest) with
      | some o => .change o :: symbols fuel ((c :: rest).drop (o.length + 1))
      | none =>
        match operators.find? (·.isPrefixOf (c :: rest)) with
        | some o => .operator o :: symbols fuel ((c :: rest).drop o.length)
        | none => [.unknown]

/-! ## Values -/

/-- Why an expression has no value. -/
inductive Error where
  | expecting (what : Octets)
  | divisionByZero
  | illegalNumber (t : Octets)
  deriving DecidableEq, Repr

/-- The word for a truth value. -/
def truth (b : Bool) : Int64 := if b then 1 else 0

/-- What an operator makes of two values. -/
def apply (operator : Octets) (a b : Int64) : Except Error Int64 :=
  match String.ofList operator with
  | "*" => .ok (a * b)
  | "/" => if b = 0 then .error .divisionByZero else .ok (a / b)
  | "%" => if b = 0 then .error .divisionByZero else .ok (a % b)
  | "+" => .ok (a + b)
  | "-" => .ok (a - b)
  | "<<" => .ok (a <<< b)
  | ">>" => .ok (a >>> b)
  | "<" => .ok (truth (a < b))
  | ">" => .ok (truth (b < a))
  | "<=" => .ok (truth (a ≤ b))
  | ">=" => .ok (truth (b ≤ a))
  | "==" => .ok (truth (a == b))
  | "!=" => .ok (truth (a != b))
  | "&" => .ok (a &&& b)
  | "^" => .ok (a ^^^ b)
  | _ => .ok (a ||| b)

/-- What is calculated with: the symbols left, and the variables that have been set, the latest first. -/
structure Sheet where
  symbols : List Symbol
  settings : List (Octets × Int64)

/-- Calculating on a sheet. -/
abbrev Calculation := StateT Sheet (Except Error)

/-- The rank of the operator that comes next, and the operator. -/
def nextOperator? : Calculation (Option (Octets × Nat)) := do
  match (← get).symbols with
  | .operator o :: _ => return (ranks.lookup o).map fun n => (o, n)
  | _ => return none

/-- Whether an operator comes next, which is then passed over. -/
def passes (operator : String) : Calculation Bool := do
  match (← get).symbols with
  | .operator o :: rest =>
    if o = operator.toList then
      modify fun s => { s with symbols := rest }
      return true
    else return false
  | _ => return false

/-- The value of a variable. -/
def lookup (outer : Octets → Option Octets) (name : Octets) : Calculation Int64 := do
  match (← get).settings.lookup name with
  | some n => return n
  | none =>
    let t := (outer name).getD []
    match valueOf? t with
    | some n => return n
    | none => throw (.illegalNumber t)

mutual

/-- The value of a whole expression, which may set a variable; with `idle`, it is read only. -/
def whole (outer : Octets → Option Octets) : Nat → Bool → Calculation Int64
  | 0, _ => throw (.expecting [])
  | fuel + 1, idle => do
    let put (name : Octets) (n : Int64) : Calculation Int64 := do
      if !idle then modify fun s => { s with settings := (name, n) :: s.settings }
      return n
    match (← get).symbols with
    | .name name :: .operator ['='] :: rest =>
      modify fun s => { s with symbols := rest }
      put name (← whole outer fuel idle)
    | .name name :: .change o :: rest =>
      modify fun s => { s with symbols := rest }
      let n ← whole outer fuel idle
      if idle then return n
      else
        match apply o (← lookup outer name) n with
        | .ok n => put name n
        | .error e => throw e
    | _ => choice outer fuel idle

/-- The value of an expression that may be a choice. -/
def choice (outer : Octets → Option Octets) : Nat → Bool → Calculation Int64
  | 0, _ => throw (.expecting [])
  | fuel + 1, idle => do
    let c ← either outer fuel idle
    if ← passes "?" then
      let a ← whole outer fuel (idle || c == 0)
      if !(← passes ":") then throw (.expecting "':'".toList)
      let b ← choice outer fuel (idle || c != 0)
      return if c == 0 then b else a
    else return c

/-- The value of expressions joined by `||`. -/
def either (outer : Octets → Option Octets) : Nat → Bool → Calculation Int64
  | 0, _ => throw (.expecting [])
  | fuel + 1, idle => do
    let a ← both outer fuel idle
    if ← passes "||" then
      let b ← either outer fuel (idle || a != 0)
      return truth (a != 0 || b != 0)
    else return a

/-- The value of expressions joined by `&&`. -/
def both (outer : Octets → Option Octets) : Nat → Bool → Calculation Int64
  | 0, _ => throw (.expecting [])
  | fuel + 1, idle => do
    let a ← primary outer fuel idle
    let a ← climb outer fuel idle 8 a
    if ← passes "&&" then
      let b ← both outer fuel (idle || a == 0)
      return truth (a != 0 && b != 0)
    else return a

/-- The value of what a value begins, as far as operators below a rank go. -/
def climb (outer : Octets → Option Octets) : Nat → Bool → Nat → Int64 → Calculation Int64
  | 0, _, _, _ => throw (.expecting [])
  | fuel + 1, idle, bound, a => do
    match ← nextOperator? with
    | some (o, rank) =>
      if bound ≤ rank then return a
      else
        modify fun s => { s with symbols := s.symbols.tail }
        let b ← primary outer fuel idle
        let b ← climb outer fuel idle rank b
        if idle then climb outer fuel idle bound b
        else
          match apply o a b with
          | .ok n => climb outer fuel idle bound n
          | .error e => throw e
    | none => return a

/-- The value of a number, a variable, an expression in parentheses, or one of them after an
operator. -/
def primary (outer : Octets → Option Octets) : Nat → Bool → Calculation Int64
  | 0, _ => throw (.expecting [])
  | fuel + 1, idle => do
    match (← get).symbols with
    | .number n :: rest =>
      modify fun s => { s with symbols := rest }
      return n
    | .name name :: rest =>
      modify fun s => { s with symbols := rest }
      if idle then return 0 else lookup outer name
    | .operator ['('] :: rest =>
      modify fun s => { s with symbols := rest }
      let n ← whole outer fuel idle
      if ← passes ")" then return n else throw (.expecting "')'".toList)
    | .operator [o] :: rest =>
      modify fun s => { s with symbols := rest }
      if o = '+' then primary outer fuel idle
      else if o = '-' then return -(← primary outer fuel idle)
      else if o = '!' then return truth ((← primary outer fuel idle) == 0)
      else if o = '~' then return ~~~(← primary outer fuel idle)
      else throw (.expecting "primary".toList)
    | _ => throw (.expecting "primary".toList)

end

/-- The value of a text as an expression, with the variables that it sets, the latest first. -/
def calculate (outer : Octets → Option Octets) (t : Octets) :
    Except Error (Int64 × List (Octets × Int64)) :=
  let ss := symbols (t.length + 1) t
  match whole outer (16 * ss.length + 16) false ⟨ss, []⟩ with
  | .ok (n, ⟨[], settings⟩) => .ok (n, settings)
  | .ok _ => .error (.expecting "EOF".toList)
  | .error e => .error e

/-- What is said about an error in an expression. -/
def Error.message (t : Octets) : Error → Octets
  | .expecting what =>
    "arithmetic expression: expecting ".toList ++ what ++ ": \"".toList ++ t ++ ['"']
  | .divisionByZero => "arithmetic expression: division by zero: \"".toList ++ t ++ ['"']
  | .illegalNumber n => "Illegal number: ".toList ++ n

end ProgramTrace.Host.Shell.Arithmetic
