/-
# Calls of programs

A program is called by a name with arguments and an input.  What it has done when it ends is its
outcome: what it has left of the input, what it has written and how it ended.
-/

import Emend.Host.FileSystem
import Emend.Host.Naming
import Emend.Text.Utf8

namespace Emend.Host

/-- What a program is given. -/
structure Call where
  /-- The name by which it is called; its messages start with it. -/
  name : String
  args : List Bytes := []
  input : Bytes := []
  /-- The files that it can open. -/
  files : FileSystem

/-- How a program ended. -/
inductive Status where
  | exited (code : Nat)
  /-- A signal with a number ended it. -/
  | killed (signal : Nat)
  deriving Repr, DecidableEq

/-- Where a program writes. -/
inductive Stream where
  | output
  /-- Messages about its own work. -/
  | report
  deriving Repr, DecidableEq

/-- What a program has done when it ends. -/
structure Outcome where
  /-- The input that it has not read. -/
  unread : Bytes := []
  /-- What it wrote, in order. -/
  written : List (Stream × Bytes) := []
  status : Status := .exited 0
  /-- The files, if it changed any. -/
  files? : Option FileSystem := none

namespace Outcome

/-- All that was written to a stream. -/
def writtenTo (outcome : Outcome) (stream : Stream) : Bytes :=
  outcome.written.flatMap fun (target, text) => if target = stream then text else []

/-- The outcome of a program that writes a text. -/
def ofOutput (output : Bytes) : Outcome := { written := [(.output, output)] }

end Outcome

/-- What a program does. -/
abbrev Utility := Call → Outcome

namespace Call

/-- A message of the program. -/
def message (call : Call) (text : Bytes) : Stream × Bytes :=
  (.report, Bytes.ofText (call.name ++ ": ") ++ text ++ [0x0A])

/-- A message about something with a name that the system refuses. -/
def refused (call : Call) (name : Bytes) (cause : SystemError) (opening : String := "") :
    Stream × Bytes :=
  call.message
    (Bytes.ofText opening ++ Naming.written name ++ Bytes.ofText (": " ++ cause.reason))

/-- The outcome of a program that reads nothing and gives up. -/
def fail (call : Call) (text : Bytes) (code : Nat := 1) : Outcome :=
  { unread := call.input, written := [call.message text], status := .exited code }

/-- The outcome of a program that does not understand its arguments. -/
def refuse (call : Call) (text : Bytes) (code : Nat := 1) : Outcome :=
  call.fail (text ++ Bytes.ofText ("\nTry '" ++ call.name ++ " --help' for more information."))
    code

/-! ## Files to be read -/

/-- The name that stands for the input. -/
def inputName : Bytes := Bytes.ofText "-"

/-- What files with some names hold.  The input can be read just once. -/
def readFrom (files : FileSystem) (input : Bytes) :
    List Bytes → List (Bytes × Except SystemError Bytes)
  | [] => []
  | name :: names =>
    if name = inputName || name = Bytes.ofText "/dev/stdin" then
      (name, .ok input) :: readFrom files [] names
    else (name, files.readFile name) :: readFrom files input names

/-- Whether some names are names of the input; none stand for it too. -/
def readsInput (names : List Bytes) : Bool :=
  names.isEmpty || names.contains inputName || names.contains (Bytes.ofText "/dev/stdin")

/-- What the files with some names hold, or the input if there are none. -/
def read (call : Call) (names : List Bytes) : List (Bytes × Except SystemError Bytes) :=
  readFrom call.files call.input (if names.isEmpty then [inputName] else names)

/-- What is left of the input when the files with some names have been read. -/
def unreadAfter (call : Call) (names : List Bytes) : Bytes :=
  if readsInput names then [] else call.input

end Call

end Emend.Host
