import ProgramTrace.Host.World

/-!
# `ProgramTrace.Host.Shell.Pattern` — patterns, and the names that match them.

In a pattern `*` stands for any text, `?` for any octet, and a list in brackets for one of its members;
what is quoted stands for itself.  `Pattern.paths` gives the paths of files that match a pattern: a slash
has to be matched by a slash, and a name that begins with a dot by a pattern that does.
-/

namespace ProgramTrace.Host.Shell

open Files (Node Store)

/-- A pattern: its octets, and whether each of them is quoted. -/
abbrev Pattern := List (Bool × Char)

namespace Pattern

/-- The octets of a pattern. -/
def text (p : Pattern) : Octets := p.map (·.2)

/-! ## Lists in brackets -/

/-- Whether an octet is in a class by the name of the class. -/
def isInClass (name : String) (c : Char) : Bool :=
  let graph := 0x21 ≤ c.toNat && c.toNat ≤ 0x7E
  match name with
  | "alnum" => c.isAlphanum
  | "alpha" => c.isAlpha
  | "blank" => c == ' ' || c == '\t'
  | "cntrl" => c.toNat < 0x20 || c.toNat == 0x7F
  | "digit" => c.isDigit
  | "graph" => graph
  | "lower" => c.isLower
  | "print" => graph || c == ' '
  | "punct" => graph && !c.isAlphanum
  | "space" => c == ' ' || ('\t' ≤ c && c ≤ '\r')
  | "upper" => c.isUpper
  | "xdigit" => c.isDigit || ('a' ≤ c && c ≤ 'f') || ('A' ≤ c && c ≤ 'F')
  | _ => false

/-- Whether a text is the name of a class. -/
def isClassName (name : String) : Bool :=
  ["alnum", "alpha", "blank", "cntrl", "digit", "graph", "lower", "print", "punct", "space", "upper",
    "xdigit"].contains name

/-- The class that a pattern begins with, after its first bracket, and what follows it. -/
def class? : Pattern → Option (String × Pattern)
  | (false, ':') :: p =>
    let name := String.ofList ((p.takeWhile (·.2 ≠ ':')).map (·.2))
    match p.dropWhile (·.2 ≠ ':') with
    | (_, ':') :: (_, ']') :: rest => if isClassName name then some (name, rest) else none
    | _ => none
  | _ => none

/-- Whether an octet is a member of a list, from here to its bracket, and what follows the list; nothing
if no bracket closes it.  A bracket is a member if it comes first. -/
def member? (d : Char) : Nat → Bool → Bool → Pattern → Option (Bool × Pattern)
  | 0, _, _, _ => none
  | _, _, _, [] => none
  | fuel + 1, first, found, (q, c) :: p =>
    if c = ']' && !q && !first then some (found, p)
    else
      match (if c = '[' && !q then class? p else none) with
      | some (name, rest) => member? d fuel false (found || isInClass name d) rest
      | none =>
        let (c, p) := match q, c, p with
          | false, '\\', (_, e) :: rest => (e, rest)
          | _, _, _ => (c, p)
        match p with
        | (false, '-') :: (r, e) :: rest =>
          if e = ']' && !r then member? d fuel false (found || d == c) p
          else
            let (e, rest) := match r, e, rest with
              | false, '\\', (_, e) :: rest => (e, rest)
              | _, _, _ => (e, rest)
            member? d fuel false (found || (c.toNat ≤ d.toNat && d.toNat ≤ e.toNat)) rest
        | _ => member? d fuel false (found || d == c) p

/-- Whether an octet is in the list that a pattern begins with, after its opening bracket, and what
follows the list. -/
def list? (d : Char) (p : Pattern) : Option (Bool × Pattern) :=
  let (negated, p) := match p with
    | (false, '!') :: rest => (true, rest)
    | p => (false, p)
  (member? d (p.length + 1) true false p).map fun (found, rest) => (found != negated, rest)

/-! ## Matching -/

/-- Whether a text matches a pattern. -/
def fits : Nat → Pattern → Octets → Bool
  | 0, _, _ => false
  | _, [], t => t.isEmpty
  | fuel + 1, (false, '*') :: p, t =>
    fits fuel p t || (match t with
      | [] => false
      | _ :: t => fits fuel ((false, '*') :: p) t)
  | fuel + 1, (false, '?') :: p, t =>
    match t with
    | [] => false
    | _ :: t => fits fuel p t
  | fuel + 1, (false, '[') :: p, t =>
    match t with
    | [] => false
    | d :: t =>
      match list? d p with
      | some (found, rest) => found && fits fuel rest t
      | none => d == '[' && fits fuel p t
  | fuel + 1, (false, '\\') :: (_, c) :: p, t =>
    match t with
    | [] => false
    | d :: t => c == d && fits fuel p t
  | fuel + 1, (_, c) :: p, t =>
    match t with
    | [] => false
    | d :: t => c == d && fits fuel p t

/-- Whether a text matches a pattern. -/
def accepts (p : Pattern) (t : Octets) : Bool := fits (p.length + t.length + 1) p t

/-- A text without its shortest or longest part, at its start or end, that matches a pattern. -/
def trim (p : Pattern) (atEnd longest : Bool) (t : Octets) : Octets :=
  let lengths := List.range (t.length + 1)
  let lengths := if longest then lengths.reverse else lengths
  let part (n : Nat) : Octets := if atEnd then t.drop (t.length - n) else t.take n
  match lengths.find? fun n => p.accepts (part n) with
  | some n => if atEnd then t.take (t.length - n) else t.drop n
  | none => t

/-! ## Paths -/

/-- Whether a pattern stands for more than one text. -/
def isOpen : Pattern → Bool
  | [] => false
  | (false, '*') :: _ | (false, '?') :: _ => true
  | (false, '[') :: p => (list? 'x' p).isSome || isOpen p
  | (false, '\\') :: _ :: p => isOpen p
  | _ :: p => isOpen p

/-- The text that a pattern stands for which is not open. -/
def literal : Pattern → Octets
  | (false, '\\') :: (_, c) :: p => c :: literal p
  | (_, c) :: p => c :: literal p
  | [] => []

/-- The parts of a pattern between its slashes. -/
def parts : Pattern → List Pattern
  | [] => [[]]
  | x :: p =>
    if x.2 = '/' then [] :: parts p
    else match parts p with
      | [] => [[x]]
      | q :: qs => (x :: q) :: qs

/-- The names in a directory that match a pattern. -/
def names (w : World) (directory : Octets) (p : Pattern) : List Octets :=
  let hidden := (literal (p.take 1)).head? = some '.'
  let all : List Octets := match w.find (if directory = [] then ['.'] else directory) with
    | .ok i => (if (w.files.node? i).any Node.isDirectory then [['.'], ['.', '.']] else []) ++
        (w.files.entries i).map fun e => Octets.ofText e.1
    | .error _ => []
  all.filter fun n => (n.head? != some '.' || hidden) && p.accepts n

/-- The paths that match the parts of a pattern, after a path that has been matched. -/
def below (w : World) (before : Octets) : List Pattern → List Octets
  | [] => if (w.ownNodeOf? before).isSome then [before] else []
  | [p] =>
    if p.isOpen then (names w before p).map (before ++ ·)
    else
      let path := before ++ literal p
      if (w.ownNodeOf? path).isSome then [path] else []
  | p :: q :: ps =>
    if p.isOpen then
      (names w before p).flatMap fun n =>
        let path := before ++ n
        if (w.nodeOf? path).any Node.isDirectory then below w (path ++ ['/']) (q :: ps) else []
    else below w (before ++ literal p ++ ['/']) (q :: ps)

/-- The paths of files that match a pattern, in order. -/
def paths (w : World) (p : Pattern) : List Octets := (below w [] (parts p)).mergeSort Octets.notAfter

end Pattern

end ProgramTrace.Host.Shell
