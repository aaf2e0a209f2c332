/-
# The shell as a program

A shell gets its script as an argument, from a file or as its input.
-/

import Emend.Host.Shell.Run

namespace Emend.Host.Shell

/-- What the arguments of a shell ask for. -/
structure Request where
  /-- Whether the script is an argument. -/
  isCommand : Bool := false
  /-- Whether the script is the input. -/
  isInput : Bool := false
  options : List Char := []
  operands : List Bytes := []
  deriving Repr, DecidableEq

/-- Add the letters of an option to a request. -/
def Request.add (request : Request) (isSet : Bool) (letters : List Char) : Except Bytes Request :=
  let known := ['c', 's', 'i', 'l'] ++ Builtin.optionLetters
  match letters.find? fun letter => !known.contains letter with
  | some letter => .error (Bytes.ofText ("Illegal option -" ++ letter.toString))
  | none =>
    let kept := letters.filter Builtin.optionLetters.contains
    let others := request.options.filter fun letter => !kept.contains letter
    .ok { request with
      isCommand := request.isCommand || letters.contains 'c'
      isInput := request.isInput || letters.contains 's'
      options := if isSet then others ++ kept else others }

/-- Read the arguments of a shell. -/
def Request.parse (request : Request) : List Bytes → Except Bytes Request
  | [] => .ok request
  | arg :: args =>
    match (Utf8.lossy arg).toList with
    | ['-'] | ['-', '-'] => .ok { request with operands := args }
    | '-' :: letters => do parse (← request.add true letters) args
    | '+' :: letters => do parse (← request.add false letters) args
    | _ => .ok { request with operands := arg :: args }

/-- The number of bytes of a script that are read at a time. -/
def readSize : Nat := 8192

/-- Run a script in a new shell. -/
def runScript (find : Finder) (state : State) (script : Bytes) : Outcome :=
  let go := run find runLimit
  let after := endShell go (runText go state (Utf8.lossy script).toList)
  let written := after.written.reverse.filterMap fun (number, text) =>
    match number with
    | 1 => some (Stream.output, text)
    | 2 => some (Stream.report, text)
    | _ => none
  { unread := after.input
    written
    files? := some { after.files with here := state.files.here }
    status := match after.flow with
      | .killed signal => .killed signal
      | _ => .exited (after.status % 256) }

/-- The shell, with a way to find programs. -/
def shell (find : Finder) : Utility := fun call =>
  let fail (text : Bytes) : Outcome :=
    call.fail (Bytes.ofText "0: " ++ text) 2
  match Request.parse {} call.args with
  | .error text => fail text
  | .ok request =>
    let state : State :=
      { files := call.files, input := call.input, name := Bytes.ofText call.name
        options := request.options }
    match request.isCommand, request.operands with
    | true, [] => fail (Bytes.ofText "-c requires an argument")
    | true, [script] => runScript find state script
    | true, script :: name :: args => runScript find { state with name, args } script
    | false, [] =>
      runScript find { state with input := call.input.drop readSize } call.input
    | false, name :: args =>
      if request.isInput then
        runScript find { state with args := name :: args, input := call.input.drop readSize }
          call.input
      else
        match call.files.readFile name with
        | .ok script => runScript find { state with name, args } script
        | .error cause =>
          fail (Bytes.ofText "cannot open " ++ name
            ++ Bytes.ofText (": " ++ refusal "No such file" cause))

end Emend.Host.Shell
