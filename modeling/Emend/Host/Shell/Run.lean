/-
# Running scripts

`run` takes a state through a command.  What a command does by itself is told by functions that get
the way to run the commands inside it as an argument, so that only `run` calls itself.
-/

import Emend.Host.Shell.Builtin
import Emend.Host.Shell.Parse

namespace Emend.Host.Shell

/-- Run a command. -/
abbrev Runner := State → Script → State

/-- Find the program with a name. -/
abbrev Finder := Bytes → Except SystemError Utility

/-! ## Scripts as texts -/

/-- Run the lines of a script up to the first that makes no sense. -/
def runText (go : Runner) (state : State) (script : List Char) : State :=
  let (scripts, misread?) := Script.parse script
  let state := scripts.foldl go state
  match misread? with
  | some (fault, line) =>
    if state.flow = .onward then
      { state with line }.abort (Bytes.ofText fault.message)
    else state
  | none => state

/-- What a shell does at its end. -/
def endShell (go : Runner) (state : State) : State :=
  match state.traps.lookup (Bytes.ofText "EXIT"), state.flow with
  | _, .killed _ => state
  | some action, _ =>
    let after := runText go { state with flow := .onward, traps := [] } (Utf8.lossy action).toList
    if after.flow = .onward then { after with status := state.status, flow := state.flow }
    else after
  | none, _ => state

/-- Run a script in a word: its output stands in for it. -/
def substitute (go : Runner) : Substitution := fun state script =>
  let number := state.fresh
  let inner := { state.inner with fresh := number + 1 }.withSink 1 (.kept number)
  let after := endShell go (runText go inner script)
  let state := state.afterInner (after.forget number)
  ({ state with wordStatus? := some after.status }, after.keptUnder number)

/-! ## Redirections -/

/-- Why a file cannot be opened, in the words of the shell. -/
def refusal (whenMissing : String) : SystemError → String
  | .notFound | .notADirectory => whenMissing
  | cause => cause.reason

/-- The state with a stream that leads into a file. -/
def openOutput (state : State) (stream : Nat) (path : Bytes) (append : Bool) :
    Except Bytes State := do
  let refuse (cause : SystemError) : Bytes :=
    Bytes.ofText "cannot create " ++ path
      ++ Bytes.ofText (": " ++ refusal "Directory nonexistent" cause)
  match Utf8.lossy path with
  | "/dev/stdout" => return state.withSink stream (state.sink 1)
  | "/dev/stderr" => return state.withSink stream (state.sink 2)
  | _ =>
    let before := if append then (state.files.readFile path).toOption.getD [] else []
    let files ← (state.files.writeFile path before).mapError refuse
    match ← (files.openFile path).mapError refuse with
    | .file number => return { state with files }.withSink stream (.file number)
    | .device _ => return state.withSink stream .nowhere

/-- The state with a stream that is the same as another one. -/
def copyStream (state : State) (stream : Nat) (from_ : Bytes) : Except Bytes State :=
  let closed : State := { state with sinks := state.sinks.filter (·.1 ≠ stream) }
  if from_ = Bytes.ofText "-" then
    .ok (if stream = 0 then { closed with input := [] } else closed)
  else
    match Filter.number? from_ with
    | none => .error (Bytes.ofText "Syntax error: Bad fd number")
    | some 0 => .ok state
    | some number =>
      match state.sinks.lookup number with
      | some sink => .ok (state.withSink stream sink)
      | none => .error (from_ ++ Bytes.ofText ": Bad file descriptor")

/-- The state with a redirection. -/
def redirect (sub : Substitution) (state : State) (redirection : Redirection) :
    State × Option Bytes :=
  let stream := redirection.stream
  let result (state : State) : Except Bytes State → State × Option Bytes
    | .ok after => (after, none)
    | .error text => (state, some text)
  match redirection.target with
  | .here text =>
    let (state, text) := expandText sub state text
    (if stream = 0 then { state with input := text } else state, none)
  | .read path =>
    let (state, path) := expandText sub state path
    if stream ≠ 0 || path = Bytes.ofText "/dev/stdin" then (state, none)
    else
      match state.files.readFile path with
      | .ok text => ({ state with input := text }, none)
      | .error cause =>
        (state, some (Bytes.ofText "cannot open " ++ path
          ++ Bytes.ofText (": " ++ refusal "No such file" cause)))
  | .write path append =>
    let (state, path) := expandText sub state path
    result state (openOutput state stream path append)
  | .copy from_ =>
    let (state, from_) := expandText sub state from_
    result state (copyStream state stream from_)

/-- The state with redirections, and whether they could be made. -/
def redirectAll (sub : Substitution) (state : State) (redirections : List Redirection) :
    State × Bool :=
  redirections.foldl (fun (state, isDone) redirection =>
    if isDone && state.flow = .onward then
      match redirect sub state redirection with
      | (state, none) => (state, state.flow = .onward)
      | (state, some text) => (state.complain text 2, false)
    else (state, isDone)) (state, true)

/-- The state with its streams as they were before redirections. -/
def withoutRedirections (before after : State) (redirections : List Redirection) : State :=
  { after with
    sinks := before.sinks
    input := if redirections.any (·.stream = 0) then before.input else after.input }

/-! ## Commands of words -/

/-- Run a program. -/
def runProgramIn (find : Finder) (state : State) (name : Bytes) (args : List Bytes)
    (opening : String := "") : State :=
  let complain (reason : String) (code : Nat) : State :=
    state.complain (Bytes.ofText opening ++ name ++ Bytes.ofText (": " ++ reason)) code
  match if name.isEmpty then .error .permissionDenied else find name with
  | .ok utility => state.call utility (Utf8.lossy name) args
  | .error .notFound | .error .notADirectory => complain "not found" 127
  | .error cause => complain cause.reason (if name.contains 0x2F then 126 else 127)

/-- Run a function. -/
def runFunction (go : Runner) (state : State) (body : Script) (args : List Bytes) : State :=
  let after := go { state with args, hidden? := some [], loops := 0 } body
  let after := (after.hidden?.getD []).foldl
    (fun after (name, value?) => after.restore name value?) after
  { after with
    args := state.args
    hidden? := state.hidden?
    loops := state.loops
    flow := if after.flow = .back then .onward else after.flow }

/-- What a name means where a command starts. -/
def describe (find : Finder) (state : State) (name : Bytes) : Option String :=
  let text := Utf8.lossy name
  if reserved.contains text then some "is a shell keyword"
  else if Builtin.special.contains text then some "is a special shell builtin"
  else if (state.functions.lookup text.toList).isSome then some "is a shell function"
  else if (Builtin.named? text).isSome || ["command", "type"].contains text then
    some "is a shell builtin"
  else
    match find name with
    | .ok _ => some (if text.contains '/' then "is " ++ text else "is /usr/bin/" ++ text)
    | .error _ => none

/-- Tell what names mean; `brief` leaves out the words. -/
def describeAll (find : Finder) (brief : Bool) : Builtin := fun state names =>
  names.foldl (fun state name =>
    match describe find state name with
    | some text =>
      let isPath := (Bytes.ofText "is /").isPrefixOf (Bytes.ofText text)
      let line :=
        if !brief then name ++ Bytes.ofText (" " ++ text)
        else if isPath then (Bytes.ofText text).drop 3
        else name
      state.write 1 (line ++ [0x0A])
    | none =>
      if brief then { state with status := 127 }
      else { state.write 1 (name ++ Bytes.ofText ": not found\n") with status := 127 })
    { state with status := 0 }

/-- Set what is to be done when signals come or at the end. -/
def trap : Builtin := fun state args =>
  let signalName (text : Bytes) : Option Bytes :=
    (Builtin.signal? text).map fun number =>
      match Builtin.signals.find? (·.2 = number) with
      | some (name, _) => Bytes.ofText name
      | none => Bytes.ofText number.repr
  match args.filter (· ≠ Bytes.ofText "--") with
  | [] => { state with status := 0 }
  | action :: names =>
    let resets := action = Bytes.ofText "-" || (Filter.number? action).isSome
    let names := if (Filter.number? action).isSome then action :: names else names
    names.foldl (fun state text =>
      match signalName text with
      | none => state.complain (Bytes.ofText "trap: " ++ text ++ Bytes.ofText ": bad trap") 1
      | some name =>
        let others := state.traps.filter (·.1 ≠ name)
        { state with traps := if resets then others else (name, action) :: others })
      { state with status := 0 }

/-- Run the script that a file holds. -/
def source (go : Runner) : Builtin := fun state args =>
  match args with
  | [] => { state with status := 0 }
  | path :: _ =>
    if !path.contains 0x2F then
      state.abort (Bytes.ofText ".: " ++ path ++ Bytes.ofText ": not found")
    else
      match state.files.readFile path with
      | .ok script =>
        let after := runText go { state with status := 0 } (Utf8.lossy script).toList
        { after with flow := if after.flow = .back then .onward else after.flow }
      | .error cause =>
        state.abort (Bytes.ofText ".: cannot open " ++ path
          ++ Bytes.ofText (": " ++ refusal "No such file" cause))

/-- Run a command of words other than a function. -/
def runNamed (find : Finder) (go : Runner) (state : State) (name : Bytes) (args : List Bytes) :
    State :=
  match Utf8.lossy name with
  | "eval" =>
    let script := Utf8.lossy (([0x20] : Bytes).intercalate args)
    runText go { state with status := 0 } script.toList
  | "." => source go state args
  | "trap" => trap state args
  | "type" => describeAll find false state args
  | text =>
    match Builtin.named? text with
    | some builtin => builtin state args
    | none => runProgramIn find state name args

/-- Run the command that the arguments of `command` are. -/
def runCommand (find : Finder) (go : Runner) (state : State) (args : List Bytes) : State :=
  match args with
  | [] => { state with status := 0 }
  | option :: rest =>
    if option = Bytes.ofText "-v" then describeAll find true state rest
    else if option = Bytes.ofText "-V" then describeAll find false state rest
    else
      match if option = Bytes.ofText "-p" || option = Bytes.ofText "--" then rest else args with
      | [] => { state with status := 0 }
      | name :: args => runNamed find go state name args

/-- Let a program take the place of the shell. -/
def exec (find : Finder) (state : State) (args : List Bytes) : State :=
  match args with
  | [] => { state with status := 0 }
  | name :: args =>
    let after := runProgramIn find { state with traps := [] } name args "exec: "
    { after with flow := .ended }

/-- Whether arguments are a command that ends the shell when it fails. -/
def endsShell (state : State) (name : Bytes) : Bool :=
  Builtin.special.contains (Utf8.lossy name)
    && (state.functions.lookup (Utf8.lossy name).toList).isNone

/-- What follows when a signal comes for which there is a script. -/
def onSignal (go : Runner) (state : State) : State :=
  match state.flow with
  | .killed signal =>
    let name? := (Builtin.signals.find? (·.2 = signal)).map fun (name, _) => Bytes.ofText name
    match if signal = 9 then none else name?.bind (List.lookup · state.traps) with
    | some action =>
      let after := runText go { state with flow := .onward } (Utf8.lossy action).toList
      if after.flow = .onward then { after with status := state.status } else after
    | none => state
  | _ => state

/-- Make the settings before a command. -/
def makeSettings (sub : Substitution) (state : State) (settings : List (List Char × Word)) :
    State :=
  settings.foldl (fun state (name, word) =>
    let (state, value) := expandText sub state word
    if state.flow = .onward then Builtin.assign state name value else state) state

/-- Run a command of words. -/
def runSimple (find : Finder) (go : Runner) (state : State) (command : Simple) : State :=
  let sub := substitute go
  let (state, args) :=
    expandWords sub { state with line := command.line, wordStatus? := none } command.words
  if state.flow ≠ .onward then state
  else
    let (open_, isDone) := redirectAll sub state command.redirections
    let close (after : State) : State :=
      withoutRedirections state after command.redirections
    match args with
    | [] =>
      if !isDone then close open_
      else
        let after := close (makeSettings sub open_ command.settings)
        if after.flow = .onward then { after with status := after.wordStatus?.getD 0 } else after
    | name :: args =>
      let special := endsShell state name
      if !isDone then
        let after := close open_
        if special then { after with flow := .ended } else after
      else
        let set := makeSettings sub open_ command.settings
        if set.flow ≠ .onward then close set
        else
          let text := Utf8.lossy name
          let after :=
            match if special then none else set.functions.lookup text.toList with
            | some body => runFunction go set body args
            | none =>
              if text = "exec" then exec find set args
              else if text = "command" then runCommand find go set args
              else runNamed find go set name args
          let after := onSignal go after
          let after := if text = "exec" then after else close after
          if special then after
          else
            command.settings.foldl
              (fun after (name, _) => after.restore name (state.value? name)) after

/-- End the shell if a failure that nobody looks at is to end it. -/
def checkFailure (state : State) : State :=
  if state.options.contains 'e' && !state.tested && state.status ≠ 0 && state.flow = .onward then
    { state with flow := .ended }
  else state

/-! ## Commands with commands inside -/

/-- The state after a round of a loop, and whether the loop goes on. -/
def afterRound (state : State) : State × Bool :=
  match state.flow with
  | .leave loops =>
    ({ state with flow := if loops ≤ 1 then .onward else .leave (loops - 1) }, false)
  | .again loops =>
    if loops ≤ 1 then ({ state with flow := .onward }, true)
    else ({ state with flow := .again (loops - 1) }, false)
  | .onward => (state, true)
  | _ => (state, false)

/-- Run a command whose failure is looked at. -/
def runTested (go : Runner) (state : State) (script : Script) : State :=
  { go { state with tested := true } script with tested := state.tested }

/-- Run the rounds of a loop; `last` is how the last round ended. -/
def runLoop (go : Runner) (isUntil : Bool) (condition body : Script) (last : Nat) (state : State) :
    (rounds : Nat) → State
  | 0 => { state with flow := .ended }
  | rounds + 1 =>
    let (checked, goesOn) := afterRound (runTested go state condition)
    if !goesOn then checked
    else if (checked.status = 0) = isUntil then { checked with status := last }
    else
      let (after, goesOn) := afterRound (go checked body)
      if goesOn then runLoop go isUntil condition body after.status after rounds else after

/-- Run a body for each of some values of a variable. -/
def runEach (go : Runner) (name : List Char) (body : Script) (state : State) :
    List Bytes → State
  | [] => state
  | value :: values =>
    let set := Builtin.assign state name value
    if set.flow ≠ .onward then set
    else
      let (after, goesOn) := afterRound (go set body)
      if goesOn then runEach go name body after values else after

/-- The branch that a text chooses. -/
def chooseCase (sub : Substitution) (text : Bytes) (state : State) :
    Script → State × Option Script
  | .cases _ patterns body otherwise =>
    let (state, found) := patterns.foldl (fun (state, found) pattern =>
      if found then (state, true)
      else
        let (state, parts) := expandWord sub wordDepth state pattern
        (state, matchesPattern (Expanded.cells parts) text)) (state, false)
    if found then (state, some body) else chooseCase sub text state otherwise
  | _ => (state, none)

/-- Run two commands, the output of the first being the input of the second. -/
def runPipe (go : Runner) (state : State) (first second : Script) : State :=
  let number := state.fresh
  let writer := { state.inner with fresh := number + 1 }.withSink 1 (.kept number)
  let writer := endShell go (go writer first)
  let state := state.afterInner (writer.forget number)
  let reader := { state.inner with input := writer.keptUnder number }
  let reader := endShell go (go reader second)
  { state.afterInner reader with input := state.input }

/-- Run a command; `fuel` bounds how deep commands stand inside commands and how many rounds a loop
has. -/
def run (find : Finder) : (fuel : Nat) → Runner
  | 0, state, _ => { state with flow := .ended }
  | fuel + 1, state, script =>
    let go := run find fuel
    let sub := substitute go
    if state.flow ≠ .onward then state
    else
      match script with
      | .empty => state
      | .simple command => checkFailure (runSimple find go state command)
      | .sequence first second => go (go state first) second
      | .andThen first second =>
        let after := runTested go state first
        if after.status = 0 then go after second else after
      | .orElse first second =>
        let after := runTested go state first
        if after.status = 0 then after else go after second
      | .negated body =>
        let after := runTested go state body
        if after.flow = .onward then { after with status := if after.status = 0 then 1 else 0 }
        else after
      | .pipe first second => checkFailure (runPipe go state first second)
      | .background body =>
        let after := state.afterInner (endShell go (go { state.inner with input := [] } body))
        { after with input := state.input, status := 0 }
      | .subshell body => checkFailure (state.afterInner (endShell go (go state.inner body)))
      | .redirected body line redirections =>
        let (open_, isDone) := redirectAll sub { state with line } redirections
        checkFailure
          (withoutRedirections state (if isDone then go open_ body else open_) redirections)
      | .choice condition yes no =>
        let after := runTested go state condition
        if after.flow ≠ .onward then after
        else if after.status = 0 then go after yes
        else
          match no with
          | .empty => { after with status := 0 }
          | _ => go after no
      | .loop isUntil condition body =>
        let inside := { state with loops := state.loops + 1 }
        let after := runLoop go isUntil condition body 0 inside fuel
        { after with loops := state.loops }
      | .each name words? body =>
        let (state, values) := match words? with
          | some words => expandWords sub state words
          | none => (state, state.args)
        let after :=
          runEach go name body { state with loops := state.loops + 1, status := 0 } values
        { after with loops := state.loops }
      | .cases word _ _ _ =>
        let (state, text) := expandText sub state word
        match chooseCase sub text state script with
        | (state, some body) => go { state with status := 0 } body
        | (state, none) => { state with status := 0 }
      | .function name body =>
        { state with
          functions := (name, body) :: state.functions.filter (·.1 ≠ name)
          status := 0 }

/-- How deep commands may stand inside commands, and how many rounds a loop may have. -/
def runLimit : Nat := 1000000

end Emend.Host.Shell
