import ProgramTrace.Host.Octet

/-!
# `ProgramTrace.Host.Escape` — what `echo` and `printf` make of a backslash.

An escape stands for one octet.  One that is not known stands for itself, backslash included.  In texts
that are printed an octal escape may have one more zero before its digits, and `\c` ends all output
(`Escape.carriedOut`).
-/

namespace ProgramTrace.Host.Escape

def letter? (c : Char) : Option Char :=
  [('a', '\x07'), ('b', '\x08'), ('e', '\x1b'), ('f', '\x0c'), ('n', '\n'), ('r', '\r'), ('t', '\t'),
    ('v', '\x0b'), ('\\', '\\')].lookup c

/-- The octal digits that a text begins with, at most three of them. -/
def octalDigits (t : Octets) : Octets := (t.take 3).takeWhile fun c => '0' ≤ c && c ≤ '7'

def ofOctal (digits : Octets) : Char :=
  Char.ofNat (digits.foldl (fun n c => n * 8 + (c.toNat - '0'.toNat)) 0 % 256)

/-- The octet of the escape that follows a backslash, and what follows the escape. -/
def read : Octets → Char × Octets
  | [] => ('\\', [])
  | c :: rest =>
    match octalDigits (c :: rest) with
    | [] =>
      match letter? c with
      | some d => (d, rest)
      | none => ('\\', c :: rest)
    | digits => (ofOctal digits, (c :: rest).drop digits.length)

theorem length_read_le (t : Octets) : (read t).2.length ≤ t.length := by
  cases t with
  | nil => simp [read]
  | cons c rest =>
    simp only [read]
    split
    · split <;> simp
    · simp only [List.length_drop]
      omega

/-- A text with its escapes carried out, and whether one of them ends all output. -/
def carriedOut (t : Octets) : Octets × Bool :=
  match t with
  | [] => ([], false)
  | '\\' :: 'c' :: _ => ([], true)
  | '\\' :: '0' :: rest =>
    let digits := octalDigits rest
    let (more, ended) := carriedOut (rest.drop digits.length)
    (ofOctal digits :: more, ended)
  | '\\' :: rest =>
    let (more, ended) := carriedOut (read rest).2
    ((read rest).1 :: more, ended)
  | c :: rest =>
    let (more, ended) := carriedOut rest
    (c :: more, ended)
termination_by t.length
decreasing_by
  · simp only [List.length_drop, List.length_cons]
    omega
  · have := length_read_le rest
    simp only [List.length_cons]
    omega
  · simp

/-- What `echo` prints for its arguments: they are separated by spaces, and a line end follows unless the
first one is `-n`. -/
def echo (arguments : List Octets) : Octets :=
  match arguments with
  | ['-', 'n'] :: rest => (carriedOut ([' '].intercalate rest)).1
  | _ => (carriedOut ([' '].intercalate arguments ++ ['\n'])).1

end ProgramTrace.Host.Escape
