/-
# What the system refuses

Reading, writing and starting programs can fail for reasons that lie outside the library.
-/

namespace Emend

/-- Why the system did not do what it was asked. -/
inductive SystemError where
  | notFound
  | inputOutput
  | argumentsTooLong
  | permissionDenied
  | notADirectory
  | isADirectory
  | invalidArgument
  | brokenPipe
  | nameTooLong
  | tooManyLinks
  /-- A path with a character that no path can have. -/
  | pathHoldsNul
  /-- A program or an argument with a character that none can have. -/
  | argumentHoldsNul
  deriving Repr, DecidableEq

namespace SystemError

/-- The number of a refusal and its reason; a character that nothing can have has no number. -/
def numbered : SystemError → Option Nat × String
  | notFound => (some 2, "No such file or directory")
  | inputOutput => (some 5, "Input/output error")
  | argumentsTooLong => (some 7, "Argument list too long")
  | permissionDenied => (some 13, "Permission denied")
  | notADirectory => (some 20, "Not a directory")
  | isADirectory => (some 21, "Is a directory")
  | invalidArgument => (some 22, "Invalid argument")
  | brokenPipe => (some 32, "Broken pipe")
  | nameTooLong => (some 36, "File name too long")
  | tooManyLinks => (some 40, "Too many levels of symbolic links")
  | pathHoldsNul => (none, "file name contained an unexpected NUL byte")
  | argumentHoldsNul => (none, "nul byte found in provided data")

/-- Why something is refused. -/
def reason (refusal : SystemError) : String := refusal.numbered.2

/-- A refusal in words. -/
def message (refusal : SystemError) : String :=
  match refusal.numbered with
  | (some number, reason) => reason ++ " (os error " ++ number.repr ++ ")"
  | (none, reason) => reason

end SystemError

end Emend
