/-
# Failures

What can go wrong with a configuration, with a formatter and with a run, in one type.
-/

import Emend.Config.Misfit
import Emend.Host.SystemError
import Emend.Path
import Emend.Pattern.Regex

namespace Emend

/-- A pattern that is refused, and why. -/
structure BadPattern where
  pattern : String
  reason : Pattern.CompileError
  deriving Repr, DecidableEq

/-- Why a configuration could not be had, planned or run, or a content not be formatted. -/
inductive Failure where
  /-- The file of the configuration cannot be read. -/
  | configUnreadable (path : Path) (cause : SystemError)
  /-- The text of the configuration holds none. -/
  | configInvalid (path : Path) (cause : ReadError)
  /-- A pattern of the entry for a file is refused. -/
  | patternInvalid (file : Path) (cause : BadPattern)
  | notOpened (path : Path) (cause : SystemError)
  | notRead (path : Path) (cause : SystemError)
  | notWritten (path : Path) (cause : SystemError)
  /-- The program of a formatter could not be started. -/
  | programNotStarted (program : String) (cause : SystemError)
  /-- The program of a formatter did not take all of the content. -/
  | inputRefused (program : String) (cause : SystemError)
  /-- The program of a formatter reported a failure. -/
  | programFailed (program : String) (exitCode : Int) (report : String)
  /-- The formatter failed, for whatever cause, on the content of a file. -/
  | notFormatted (file : Path) (cause : Failure)
  deriving Repr, DecidableEq

namespace Failure

/-- A failure in words, without its cause. -/
def message : Failure → String
  | configUnreadable path _ => "Failed to read config file: " ++ path.display
  | configInvalid path _ => "Failed to parse config file: " ++ path.display
  | patternInvalid file cause => "Invalid regex pattern for " ++ file.display ++ ": " ++ cause.pattern
  | notOpened path _ => "Failed to open file: " ++ path.display
  | notRead path _ => "Failed to read file: " ++ path.display
  | notWritten path _ => "Failed to write file: " ++ path.display
  | programNotStarted program _ => "Failed to run formatter: " ++ program
  | inputRefused program _ => "Failed to write input to formatter: " ++ program
  | programFailed program exitCode report =>
    "Formatter exited with non-zero code: " ++ program ++ " (exit code: " ++ toString exitCode
      ++ "): " ++ report
  | notFormatted file _ => "Failed to regenerate " ++ file.display

/-- The causes of a failure in words, each one the cause of the one before. -/
def causes : Failure → List String
  | configUnreadable _ cause => [cause.message]
  | configInvalid _ cause => [cause.message]
  | patternInvalid _ cause => [cause.reason.message cause.pattern]
  | notOpened _ cause | notRead _ cause | notWritten _ cause => [cause.message]
  | programNotStarted _ cause | inputRefused _ cause => [cause.message]
  | programFailed .. => []
  | notFormatted _ cause => cause.message :: cause.causes

end Failure

end Emend
