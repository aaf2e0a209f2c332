/-
# Programs as formatters

A program gets a content through a pipe and its output is the new content.  Which programs there are
and what they do is not known here: all that counts is what is seen of a program that was started.
-/

import Emend.Formatter
import Emend.Unicode.Property

namespace Emend.Host

/-- What is seen of a program that was started, when it has come to its end. -/
structure Conduct where
  /-- The code with which it ended, unless something else ended it. -/
  exitCode? : Option Int := some 0
  /-- What it wrote as its result. -/
  output : Bytes := []
  /-- What it wrote about its own work. -/
  report : Bytes := []
  /-- Why its input could not be written to it whole. -/
  refusal? : Option SystemError := none
  deriving Repr, DecidableEq

/-- What comes of calling a program by a name, with arguments and an input; or why it could not be
started or not be watched to its end. -/
abbrev Programs := String → List String → Bytes → Except SystemError Conduct

/-- What a program wrote about its failure: as text, without the white space around it. -/
def reportText (report : Bytes) : String :=
  let isSpace := Unicode.Property.isWhiteSpace
  let chars := (Utf8.lossy report).toList.dropWhile isSpace
  String.ofList (chars.reverse.dropWhile isSpace).reverse

/-- The content that a program makes of another one.  That the program failed counts for more than
that it did not take everything. -/
def runProgram (programs : Programs) (program : String) (args : List String) (input : Bytes) :
    Except Failure Bytes :=
  if (program :: args).any fun text => text.toList.contains '\x00' then
    .error (.programNotStarted program .argumentHoldsNul)
  else
    match programs program args input with
    | .error cause => .error (.programNotStarted program cause)
    | .ok conduct =>
      match conduct.exitCode?, conduct.refusal? with
      | some 0, none => .ok conduct.output
      | some 0, some cause => .error (.inputRefused program cause)
      | exitCode?, _ =>
        .error (.programFailed program (exitCode?.getD (-1)) (reportText conduct.report))

end Emend.Host

namespace Emend

/-- The formatter that runs a program. -/
def Formatter.ofCommand (programs : Host.Programs) (program : String) (args : List String) :
    Formatter :=
  { format := Host.runProgram programs program args, program? := some program }

end Emend
