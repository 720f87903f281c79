import ProgramTrace.Text.Decimal

/-!
# `ProgramTrace.Files.Fault` — why the system refuses to open, write or start something.
-/

namespace ProgramTrace.Files

/-- The causes for which the system refuses. -/
inductive Fault where
  | notFound
  | noDevice
  | tooMuchInCommand
  | formatUnknown
  | notOpen
  | notPermitted
  | nameTaken
  | notDirectory
  | isDirectory
  | notEmpty
  | noSpace
  | nameTooLong
  | tooManyLinks
  /-- A program or an argument holds a NUL character. -/
  | nulInCommand
  /-- A path holds a NUL character. -/
  | nulInPath
  deriving DecidableEq, Repr

namespace Fault

/-- The number of a cause, where the system itself has found it. -/
def number? : Fault → Option Nat
  | .notFound => some 2
  | .noDevice => some 6
  | .tooMuchInCommand => some 7
  | .formatUnknown => some 8
  | .notOpen => some 9
  | .notPermitted => some 13
  | .nameTaken => some 17
  | .notDirectory => some 20
  | .isDirectory => some 21
  | .notEmpty => some 39
  | .noSpace => some 28
  | .nameTooLong => some 36
  | .tooManyLinks => some 40
  | .nulInCommand | .nulInPath => none

/-- What a cause is called. -/
def name : Fault → Text
  | .notFound => "No such file or directory".toList
  | .noDevice => "No such device or address".toList
  | .tooMuchInCommand => "Argument list too long".toList
  | .formatUnknown => "Exec format error".toList
  | .notOpen => "Bad file descriptor".toList
  | .notPermitted => "Permission denied".toList
  | .nameTaken => "File exists".toList
  | .notDirectory => "Not a directory".toList
  | .isDirectory => "Is a directory".toList
  | .notEmpty => "Directory not empty".toList
  | .noSpace => "No space left on device".toList
  | .nameTooLong => "File name too long".toList
  | .tooManyLinks => "Too many levels of symbolic links".toList
  | .nulInCommand => "nul byte found in provided data".toList
  | .nulInPath => "file name contained an unexpected NUL byte".toList

/-- A cause as it is reported: its name, and its number if it has one. -/
def message (f : Fault) : Text :=
  match f.number? with
  | some n => f.name ++ " (os error ".toList ++ Decimal.ofNat n ++ [')']
  | none => f.name

end Fault

end ProgramTrace.Files
