import ProgramTrace.Host.World

/-!
# `ProgramTrace.Host.Condition` — what `test` and `[` decide.

A condition is a list of words; `!`, `-a`, `-o` and parentheses join smaller ones.  A word that is an
operator counts as one only where its operands follow it.  `Condition.decide` gives the truth value, or
what is wrong with the words.
-/

namespace ProgramTrace.Host.Condition

open Files (Device Node)

/-! ## Operators -/

/-- The kinds of operators. -/
inductive Kind where
  | unary
  | binary
  | negation
  | conjunction
  | disjunction
  | opening
  | closing
  deriving DecidableEq, Repr

/-- The kind of the operator that a word is. -/
def kindOf? (word : Octets) : Option Kind :=
  match String.ofList word with
  | "!" => some .negation
  | "-a" => some .conjunction
  | "-o" => some .disjunction
  | "(" => some .opening
  | ")" => some .closing
  | "=" | "!=" | "<" | ">" | "-eq" | "-ne" | "-lt" | "-le" | "-gt" | "-ge" | "-nt" | "-ot" | "-ef" =>
    some .binary
  | "-n" | "-z" | "-t" | "-b" | "-c" | "-d" | "-e" | "-f" | "-g" | "-h" | "-k" | "-L" | "-O" | "-G" | "-p"
  | "-r" | "-s" | "-S" | "-u" | "-w" | "-x" => some .unary
  | _ => none

/-- Whether the words after an operator make it an operand itself: there are none, or the next one is an
operator between it and one more. -/
def isOperand : List Octets → Bool
  | [] => true
  | [_] => false
  | next :: _ => kindOf? next = some .binary

/-- The kind of the operator that words begin with, where it counts as one. -/
def leading? : List Octets → Option Kind
  | [] => none
  | word :: rest =>
    match kindOf? word with
    | some .unary => if isOperand rest then none else some .unary
    | some .opening => if rest.isEmpty then none else some .opening
    | kind => kind

/-! ## Single conditions -/

/-- A number with a sign and white space around it. -/
def integer? (t : Octets) : Option Int :=
  let isSpace (c : Char) : Bool := c == ' ' || ('\t' ≤ c && c ≤ '\r')
  let t := ((t.dropWhile isSpace).reverse.dropWhile isSpace).reverse
  let bounded (n : Int) : Option Int :=
    if -(Nat.pow 2 63 : Int) ≤ n ∧ n < Nat.pow 2 63 then some n else none
  match t with
  | '-' :: digits => (Decimal.toNat? digits).bind fun n => bounded (-(n : Int))
  | '+' :: digits => (Decimal.toNat? digits).bind fun n => bounded n
  | _ => (Decimal.toNat? t).bind fun n => bounded n

/-- The number that a word stands for. -/
def number (t : Octets) : Except Octets Int :=
  match integer? t with
  | some n => .ok n
  | none => .error ("Illegal number: ".toList ++ t)

/-- A condition on a node, where the node is that of a link itself for `-h` and `-L`. -/
def ofNode (operator : Octets) (n : Node) : Bool :=
  match String.ofList operator with
  | "-e" | "-r" | "-w" | "-O" | "-G" => true
  | "-f" => n.isRegular
  | "-d" => n.isDirectory
  | "-c" => match n with
    | .device _ => true
    | _ => false
  | "-s" => match n with
    | .file bytes _ => !bytes.isEmpty
    | .directory .. | .program _ => true
    | _ => false
  | "-x" => match n with
    | .file _ executable => executable
    | .directory .. | .program _ => true
    | _ => false
  | "-h" | "-L" => match n with
    | .link _ => true
    | _ => false
  | _ => false

/-- A condition on one word. -/
def unary (w : World) (operator argument : Octets) : Except Octets Bool :=
  match String.ofList operator with
  | "-n" => .ok (!argument.isEmpty)
  | "-z" => .ok argument.isEmpty
  | "-t" => (number argument).map fun _ => false
  | "-h" | "-L" => .ok ((w.ownNodeOf? argument).any (ofNode operator))
  | _ => .ok ((w.nodeOf? argument).any (ofNode operator))

/-- Whether two paths lead to the same node. -/
def areSame (w : World) (a b : Octets) : Bool :=
  match w.find a, w.find b with
  | .ok i, .ok j => i == j
  | _, _ => false

/-- A condition on two words. -/
def binary (w : World) (a operator b : Octets) : Except Octets Bool :=
  let compare (holds : Int → Int → Bool) : Except Octets Bool := do
    let x ← number a
    let y ← number b
    .ok (holds x y)
  match String.ofList operator with
  | "=" => .ok (a == b)
  | "!=" => .ok (a != b)
  | "<" => .ok (a != b && Octets.notAfter a b)
  | ">" => .ok (a != b && Octets.notAfter b a)
  | "-eq" => compare (· == ·)
  | "-ne" => compare (· != ·)
  | "-lt" => compare (· < ·)
  | "-le" => compare (· ≤ ·)
  | "-gt" => compare (· > ·)
  | "-ge" => compare (· ≥ ·)
  | "-nt" => .ok ((w.nodeOf? a).isSome && (w.nodeOf? b).isNone)
  | "-ot" => .ok ((w.nodeOf? a).isNone && (w.nodeOf? b).isSome)
  | _ => .ok (areSame w a b)

/-! ## Joined conditions -/

/-- What is said about a word that should not be there, or about a place where one is missing. -/
def wrong (word : Octets) (text : String) : Octets :=
  if word = [] then text.toList else word ++ ": ".toList ++ text.toList

mutual

/-- Conditions joined by `-o`: the truth value, and the words after them. -/
def disjunction (w : World) : Nat → List Octets → Except Octets (Bool × List Octets)
  | 0, words => .ok (false, words)
  | fuel + 1, words => do
    let (a, rest) ← conjunction w fuel words
    match leading? rest with
    | some .disjunction =>
      let (b, rest) ← disjunction w fuel rest.tail
      .ok (a || b, rest)
    | _ => .ok (a, rest)

/-- Conditions joined by `-a`. -/
def conjunction (w : World) : Nat → List Octets → Except Octets (Bool × List Octets)
  | 0, words => .ok (false, words)
  | fuel + 1, words => do
    let (a, rest) ← negation w fuel words
    match leading? rest with
    | some .conjunction =>
      let (b, rest) ← conjunction w fuel rest.tail
      .ok (a && b, rest)
    | _ => .ok (a, rest)

/-- A condition that `!` may negate. -/
def negation (w : World) : Nat → List Octets → Except Octets (Bool × List Octets)
  | 0, words => .ok (false, words)
  | fuel + 1, words =>
    if leading? words = some .negation then
      (negation w fuel words.tail).map fun r => (!r.1, r.2)
    else single w fuel words

/-- A condition in parentheses, or one of a word or of an operator and its operands. -/
def single (w : World) : Nat → List Octets → Except Octets (Bool × List Octets)
  | 0, words => .ok (false, words)
  | _, [] => .ok (false, [])
  | fuel + 1, word :: rest =>
    match leading? (word :: rest) with
    | some .opening =>
      if leading? rest = some .closing then .ok (false, rest.tail)
      else do
        let (a, rest) ← disjunction w fuel rest
        if leading? rest = some .closing then .ok (a, rest.tail)
        else .error "closing paren expected".toList
    | some .unary =>
      match rest with
      | argument :: rest => (unary w word argument).map fun a => (a, rest)
      | [] => .error (wrong word "argument expected")
    | _ =>
      match rest with
      | operator :: after =>
        if leading? (operator :: after) = some .binary then
          match after with
          | b :: after => (binary w word operator b).map fun a => (a, after)
          | [] => .error (wrong operator "argument expected")
        else .ok (!word.isEmpty, rest)
      | [] => .ok (!word.isEmpty, [])

end

/-- What words decide from the start.  All of them have to be used up, and otherwise the last one that was
is named. -/
def whole (w : World) (words : List Octets) : Except Octets Bool := do
  let (a, rest) ← disjunction w (8 * words.length + 8) words
  if rest = [] then .ok a
  else .error (wrong (words[words.length - rest.length - 1]?.getD []) "unexpected operator")

/-- What the arguments of `test` decide.  Three arguments around an operator between two words, three or
four that are negated, and three or four in parentheses are what they look like. -/
def decide (w : World) : List Octets → Except Octets Bool
  | [] => .ok false
  | [a, operator, b] =>
    if kindOf? operator = some .binary then binary w a operator b
    else if a = ['('] ∧ b = [')'] then whole w [operator]
    else if a = ['!'] then (decide w [operator, b]).map (!·)
    else whole w [a, operator, b]
  | [a, b, c, d] =>
    if a = ['('] ∧ d = [')'] then whole w [b, c]
    else if a = ['!'] then (decide w [b, c, d]).map (!·)
    else whole w [a, b, c, d]
  | words => whole w words

end ProgramTrace.Host.Condition
