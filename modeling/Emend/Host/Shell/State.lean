/-
# The state of a shell

What commands change while a script runs: variables, the input that is left, what has been written,
where it goes, and how control leaves a command.
-/

import Emend.Host.Call
import Emend.Host.Shell.Syntax

namespace Emend.Host.Shell

/-- How control goes on after a command. -/
inductive Flow where
  | onward
  /-- Out of a number of loops, counted from the innermost. -/
  | leave (loops : Nat)
  /-- To the next round of a loop, after leaving a number of others. -/
  | again (loops : Nat)
  /-- Out of a function. -/
  | back
  /-- Out of the shell. -/
  | ended
  /-- Out of all shells, by a signal. -/
  | killed (signal : Nat)
  deriving Repr, DecidableEq

/-- Where a stream leads. -/
inductive Sink where
  /-- To a text that is kept under a number. -/
  | kept (number : Nat)
  | nowhere
  /-- To the end of the file with a number. -/
  | file (number : Nat)
  deriving Repr, DecidableEq

/-- The state of a shell. -/
structure State where
  files : FileSystem
  /-- The input that no command has read. -/
  input : Bytes := []
  /-- What has been written, the last first, with the numbers under which it is kept. -/
  written : List (Nat × Bytes) := []
  /-- Where the streams lead: the output is number 1 and the report number 2. -/
  sinks : List (Nat × Sink) := [(1, .kept 1), (2, .kept 2)]
  /-- A number under which nothing is kept. -/
  fresh : Nat := 3
  /-- The name of the script. -/
  name : Bytes
  args : List Bytes := []
  /-- The values of variables. -/
  values : List (List Char × Bytes) := []
  /-- Variables that cannot be set. -/
  fixed : List (List Char) := []
  /-- What variables were before the present function, if there is one, made them its own. -/
  hidden? : Option (List (List Char × Option Bytes)) := none
  functions : List (List Char × Script) := []
  /-- Scripts to be run when a signal comes, or at the end. -/
  traps : List (Bytes × Bytes) := []
  /-- How the last command ended. -/
  status : Nat := 0
  /-- How the last script in a word of the present command ended. -/
  wordStatus? : Option Nat := none
  flow : Flow := .onward
  /-- The line of the present command. -/
  line : Nat := 1
  /-- The number of loops around the present command. -/
  loops : Nat := 0
  /-- Letters of the options that are set. -/
  options : List Char := []
  /-- Whether a failure of the present command is looked at. -/
  tested : Bool := false

/-- The number of the process. -/
def processNumber : Nat := 4242

/-- The blanks at which values are split unless something else is asked for. -/
def usualSeparators : Bytes := Bytes.ofText " \t\n"

namespace State

/-! ## Variables -/

/-- The value of a variable. -/
def value? (state : State) (name : List Char) : Option Bytes := state.values.lookup name

/-- The bytes at which values are split. -/
def separators (state : State) : Bytes := (state.value? "IFS".toList).getD usualSeparators

/-- The state with a variable removed. -/
def unset (state : State) (name : List Char) : State :=
  { state with values := state.values.filter (·.1 ≠ name) }

/-- The state with a value for a variable. -/
def assign (state : State) (name : List Char) (value : Bytes) : State :=
  { state with values := (name, value) :: (state.unset name).values }

/-- The state with a variable as it was. -/
def restore (state : State) (name : List Char) (value? : Option Bytes) : State :=
  match value? with
  | some value => state.assign name value
  | none => state.unset name

/-- The value of a parameter other than the list of all arguments. -/
def parameter? (state : State) (name : List Char) : Option Bytes :=
  match name with
  | ['#'] => some (Bytes.ofText state.args.length.repr)
  | ['?'] => some (Bytes.ofText state.status.repr)
  | ['$'] => some (Bytes.ofText processNumber.repr)
  | ['-'] => some (Bytes.ofChars state.options)
  | ['0'] => some state.name
  | first :: _ =>
    if first.isDigit then
      match (String.ofList name).toNat? with
      | some (index + 1) => state.args[index]?
      | _ => some state.name
    else state.value? name
  | [] => none

/-! ## Streams -/

/-- Where a stream leads; a closed one leads nowhere. -/
def sink (state : State) (stream : Nat) : Sink := (state.sinks.lookup stream).getD .nowhere

/-- The state in which a stream leads somewhere else. -/
def withSink (state : State) (stream : Nat) (sink : Sink) : State :=
  { state with sinks := (stream, sink) :: state.sinks.filter (·.1 ≠ stream) }

/-- The state after a text was written to a stream. -/
def write (state : State) (stream : Nat) (text : Bytes) : State :=
  if text.isEmpty then state
  else
    match state.sink stream with
    | .kept number => { state with written := (number, text) :: state.written }
    | .nowhere => state
    | .file number =>
      { state with files := state.files.setContent number (state.files.contents number ++ text) }

/-- What is kept under a number. -/
def keptUnder (state : State) (number : Nat) : Bytes :=
  (state.written.reverse.filter (·.1 = number)).flatMap Prod.snd

/-- The state without what is kept under a number. -/
def forget (state : State) (number : Nat) : State :=
  { state with written := state.written.filter (·.1 ≠ number) }

/-! ## Faults -/

/-- The start of every message. -/
def speaker (state : State) : String := Utf8.lossy state.name ++ ": " ++ state.line.repr

/-- The state after a complaint. -/
def complain (state : State) (text : Bytes) (code : Nat) : State :=
  { state.write 2 (Bytes.ofText (state.speaker ++ ": ") ++ text ++ [0x0A]) with status := code }

/-- The state after a complaint that ends the shell. -/
def abort (state : State) (text : Bytes) (code : Nat := 2) : State :=
  { state.complain text code with flow := .ended }

/-! ## Programs and shells inside -/

/-- The state after a program with a name was run. -/
def call (state : State) (utility : Utility) (name : String) (args : List Bytes) : State :=
  let outcome := utility { name, args, input := state.input, files := state.files }
  let after : State :=
    { state with input := outcome.unread, files := outcome.files?.getD state.files }
  let after := outcome.written.foldl (fun state (stream, text) =>
    state.write (match stream with
      | .output => 1
      | .report => 2) text) after
  { after with
    status := match outcome.status with
      | .exited code => code
      | .killed signal => 128 + signal }

/-- A shell inside this one, when it starts. -/
def inner (state : State) : State := { state with traps := [], loops := 0 }

/-- The state after a shell inside has ended: it leaves what is not its own. -/
def afterInner (state inner : State) : State :=
  { state with
    files := { inner.files with here := state.files.here }
    input := inner.input
    written := inner.written
    fresh := inner.fresh
    status := inner.status
    flow := match inner.flow with
      | .killed signal => .killed signal
      | _ => state.flow }

end State

end Emend.Host.Shell
