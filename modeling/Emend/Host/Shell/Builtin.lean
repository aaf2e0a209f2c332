/-
# Commands of the shell itself

The commands that change the state of the shell, so that no program could do their work.
-/

import Emend.Host.Filter.Print
import Emend.Host.Shell.Condition
import Emend.Host.Shell.Expand

namespace Emend.Host.Shell

/-- What a command of the shell does with its arguments. -/
abbrev Builtin := State → List Bytes → State

namespace Builtin

/-- The greatest number that an argument can be. -/
def numberLimit : Nat := 1 <<< 31

/-- The number that an argument is, for a command with a name. -/
def number (name : String) (arg : Bytes) : Except Bytes Nat :=
  match Filter.number? arg with
  | some n =>
    if n < numberLimit then .ok n
    else .error (Bytes.ofText (name ++ ": Illegal number: ") ++ arg)
  | none => .error (Bytes.ofText (name ++ ": Illegal number: ") ++ arg)

/-- Go on with the number that the first argument is, or with another one if there is none. -/
def withNumber (name : String) (usual : Nat) (state : State) (args : List Bytes)
    (next : Nat → State) : State :=
  match args with
  | [] => next usual
  | arg :: _ =>
    match number name arg with
    | .ok n => next n
    | .error text => state.abort text

/-- Succeed or fail. -/
def ended (code : Nat) : Builtin := fun state _ => { state with status := code }

/-! ## Control -/

/-- End the shell. -/
def exit : Builtin := fun state args =>
  withNumber "exit" state.status state args fun n =>
    { state with status := n % 256, flow := .ended }

/-- End a function. -/
def back : Builtin := fun state args =>
  withNumber "return" state.status state args fun n => { state with status := n, flow := .back }

/-- Leave loops or go on with the next round of one. -/
def jump (name : String) (flow : Nat → Flow) : Builtin := fun state args =>
  withNumber name 1 state args fun n =>
    if n = 0 then state.abort (Bytes.ofText (name ++ ": Illegal number: 0"))
    else if state.loops = 0 then { state with status := 0 }
    else { state with status := 0, flow := flow (min n state.loops) }

/-! ## Arguments and variables -/

/-- Drop the first arguments of the script. -/
def shift : Builtin := fun state args =>
  withNumber "shift" 1 state args fun n =>
    if state.args.length < n then state.abort (Bytes.ofText "shift: can't shift that many")
    else { state with args := state.args.drop n, status := 0 }

/-- Letters of options that can be set. -/
def optionLetters : List Char :=
  ['a', 'b', 'C', 'e', 'f', 'h', 'm', 'n', 'u', 'v', 'x']

/-- The letter of an option with a name. -/
def optionLetter? (name : Bytes) : Option Char :=
  [("errexit", 'e'), ("nounset", 'u'), ("noglob", 'f'), ("xtrace", 'x'), ("allexport", 'a'),
    ("verbose", 'v'), ("noclobber", 'C'), ("noexec", 'n')].lookup (Utf8.lossy name)

/-- Set or unset options. -/
def withOptions (state : State) (isSet : Bool) (letters : List Char) : Except Bytes State :=
  match letters.find? fun letter => !optionLetters.contains letter with
  | some letter => .error (Bytes.ofText ("Illegal option -" ++ letter.toString))
  | none =>
    let others := state.options.filter fun letter => !letters.contains letter
    .ok { state with options := if isSet then others ++ letters.eraseDups else others }

/-- Set options and the arguments of the script. -/
def setFrom (state : State) : List Bytes → State
  | [] => { state with status := 0 }
  | arg :: args =>
    match (Utf8.lossy arg).toList with
    | ['-', '-'] => { state with args, status := 0 }
    | ['-'] =>
      if args.isEmpty then { state with status := 0 } else { state with args, status := 0 }
    | [sign, 'o'] =>
      match args with
      | [] => { state with status := 0 }
      | name :: others =>
        match optionLetter? name with
        | some letter =>
          match withOptions state (sign = '-') [letter] with
          | .ok state => setFrom state others
          | .error text => state.abort (Bytes.ofText "set: " ++ text)
        | none =>
          if name = Bytes.ofText "pipefail" then
            state.abort (Bytes.ofText "set: Illegal option -o pipefail")
          else state.abort (Bytes.ofText "set: Illegal option -o " ++ name)
    | sign :: letters =>
      if (sign = '-' || sign = '+') && !letters.isEmpty then
        match withOptions state (sign = '-') letters with
        | .ok state => setFrom state args
        | .error text => state.abort (Bytes.ofText "set: " ++ text)
      else { state with args := arg :: args, status := 0 }
    | [] => { state with args := arg :: args, status := 0 }

/-- The name and the value in an argument, if there is one. -/
def nameAndValue (arg : Bytes) : List Char × Option Bytes :=
  let name := arg.takeWhile (· ≠ 0x3D)
  ((Utf8.lossy name).toList,
    match arg.drop name.length with
    | [] => none
    | _ :: value => some value)

/-- Set a variable, unless it is fixed. -/
def assign (state : State) (name : List Char) (value : Bytes) : State :=
  if state.fixed.contains name then
    state.abort (Bytes.ofChars name ++ Bytes.ofText ": is read only")
  else state.assign name value

/-- Do something with each variable among the arguments and set those that have a value. -/
def declare (command : String) (each : State → List Char → State) : Builtin := fun state args =>
  let args := args.filter fun arg => arg ≠ Bytes.ofText "-p" && arg ≠ Bytes.ofText "--"
  args.foldl (fun state arg =>
    let (name, value?) := nameAndValue arg
    if state.flow ≠ .onward then state
    else if !isName name then
      state.abort (Bytes.ofText (command ++ ": ") ++ Bytes.ofChars name
        ++ Bytes.ofText ": bad variable name")
    else
      let state := each state name
      match value? with
      | some value => assign state name value
      | none => state) { state with status := 0 }

/-- Fix variables after they have been set. -/
def fix : Builtin := fun state args =>
  let after := declare "readonly" (fun state _ => state) state args
  { after with fixed := args.map (fun arg => (nameAndValue arg).1) ++ after.fixed }

/-- Remove variables or functions. -/
def unset : Builtin := fun state args =>
  let ofFunctions := args.head? = some (Bytes.ofText "-f")
  let isOption (arg : Bytes) : Bool := arg = Bytes.ofText "-f" || arg = Bytes.ofText "-v"
  (args.filter fun arg => !isOption arg).foldl (fun state arg =>
    let name := (Utf8.lossy arg).toList
    if ofFunctions then
      { state with functions := state.functions.filter (·.1 ≠ name) }
    else if !isName name then
      state.abort (Bytes.ofText "unset: " ++ arg ++ Bytes.ofText ": bad variable name")
    else if state.fixed.contains name then
      state.abort (Bytes.ofText "unset: " ++ arg ++ Bytes.ofText ": is read only")
    else state.unset name) { state with status := 0 }

/-- Keep what a variable was before a function makes it its own. -/
def hide (state : State) (name : List Char) : State :=
  { state with hidden? := state.hidden?.map ((name, state.value? name) :: ·) }

/-- Make variables a function's own. -/
def own : Builtin := fun state args =>
  if state.hidden?.isNone then state.abort (Bytes.ofText "local: not in a function")
  else declare "local" hide state args

/-! ## Reading lines -/

/-- The parts of the first line of an input, what follows it and whether the line is complete.  A
backslash, unless it is `plain`, quotes the next byte or joins two lines. -/
def lineParts (plain escaped : Bool) : Bytes → List Expanded × Bytes × Bool
  | [] => ([], [], false)
  | b :: rest =>
    let go (part : List Expanded) (escaped : Bool) : List Expanded × Bytes × Bool :=
      let (parts, after, isComplete) := lineParts plain escaped rest
      (part ++ parts, after, isComplete)
    if escaped then go (if b = 0x0A then [] else [.byte b true]) false
    else if b = 0x0A then ([], rest, true)
    else if b = 0x5C && !plain then go [] true
    else if b = 0 then go [] false
    else go [.value b] false

/-- Whether a part is a blank at which values are split. -/
def isGap (separators : Bytes) : Expanded → Bool
  | .value b => separators.contains b && (Filter.isBlank b || b = 0x0A)
  | _ => false

/-- Whether a part is a byte at which values are split. -/
def isSeparator (separators : Bytes) : Expanded → Bool
  | .value b => separators.contains b
  | _ => false

/-- Put the words of a line into variables; the last one takes all that is left. -/
def assignWords (separators : Bytes) (parts : List Expanded) (state : State) :
    List Bytes → State
  | [] => state
  | name :: names =>
    let parts := parts.dropWhile (isGap separators)
    let variable_ := (Utf8.lossy name).toList
    if names.isEmpty then
      let kept := (parts.reverse.dropWhile (isGap separators)).reverse
      let inner := kept.takeWhile fun part => !isSeparator separators part
      let isOneWord := kept.length = inner.length + 1
      assign state variable_ (Expanded.text (if isOneWord then inner else kept))
    else
      let word := parts.takeWhile fun part => !isSeparator separators part
      let after := (parts.drop word.length).dropWhile (isGap separators)
      let after :=
        if after.head?.any (isSeparator separators) then after.tail else after
      assignWords separators after (assign state variable_ (Expanded.text word)) names

/-- Read a line into variables. -/
def read : Builtin := fun state args =>
  let forms : List OptionForm := [⟨'r', "", false⟩, ⟨'p', "", true⟩]
  match OptionForm.parse forms args false with
  | .error text =>
    let letter := (text.reverse.drop 1).take 1
    state.complain (Bytes.ofText "read: Illegal option -" ++ letter) 2
  | .ok given =>
    if given.operands.isEmpty then state.complain (Bytes.ofText "read: arg count") 2
    else
      let state := state.write 2 ((given.value? 'p').getD [])
      let (parts, after, isComplete) := lineParts (given.has 'r') false state.input
      let state :=
        assignWords state.separators parts { state with input := after } given.operands
      if state.flow = .onward then { state with status := if isComplete then 0 else 1 }
      else state

/-! ## Places -/

/-- Work in another directory. -/
def cd : Builtin := fun state args =>
  match args.filter (· ≠ Bytes.ofText "--") with
  | [] => { state with status := 0 }
  | path :: _ =>
    match state.files.resolve path with
    | .ok (.node place .directory) =>
      { state with files := { state.files with here := place }, status := 0 }
    | _ => state.complain (Bytes.ofText "cd: can't cd to " ++ path) 2

/-- Write where the shell works. -/
def pwd : Builtin := fun state _ =>
  let names := state.files.here.flatMap fun name => Path.slash :: name
  { state.write 1 ((if names.isEmpty then [0x2F] else names) ++ [0x0A]) with status := 0 }

/-! ## Signals -/

/-- The signals that have names, with their numbers. -/
def signals : List (String × Nat) :=
  [("EXIT", 0), ("HUP", 1), ("INT", 2), ("QUIT", 3), ("ILL", 4), ("TRAP", 5), ("ABRT", 6),
    ("BUS", 7), ("FPE", 8), ("KILL", 9), ("USR1", 10), ("SEGV", 11), ("USR2", 12), ("PIPE", 13),
    ("ALRM", 14), ("TERM", 15), ("STKFLT", 16), ("CHLD", 17), ("CONT", 18), ("STOP", 19),
    ("TSTP", 20), ("TTIN", 21), ("TTOU", 22), ("URG", 23), ("XCPU", 24), ("XFSZ", 25),
    ("VTALRM", 26), ("PROF", 27), ("WINCH", 28), ("POLL", 29), ("PWR", 30), ("SYS", 31)]

/-- The greatest number of a signal. -/
def signalLimit : Nat := 64

/-- The number of the signal that a text names. -/
def signal? (text : Bytes) : Option Nat :=
  match Filter.number? text with
  | some n => if n ≤ signalLimit then some n else none
  | none => signals.lookup (Utf8.lossy text).toUpper

/-- Signals that do not end a process. -/
def harmless : List Nat := [0, 17, 18, 23, 28]

/-- The signal that `kill` is to send and those that are to get it. -/
def killTargets (args : List Bytes) : Except Bytes (Nat × List Bytes) :=
  let unknown (text : Bytes) : Bytes := Bytes.ofText "invalid signal number or name: " ++ text
  match args with
  | [] =>
    .error (Bytes.ofText ("Usage: kill [-s sigspec | -signum | -sigspec] [pid | job]... or\n"
      ++ "kill -l [exitstatus]"))
  | option :: rest =>
    if option = Bytes.ofText "-s" then
      match rest with
      | name :: targets =>
        match signal? name with
        | some signal => .ok (signal, targets)
        | none => .error (unknown name)
      | [] => .error (Bytes.ofText "No arg for -s option")
    else if option = Bytes.ofText "--" then .ok (15, rest)
    else
      match option with
      | 0x2D :: name =>
        match signal? name with
        | some signal =>
          .ok (signal, if rest.head? = some (Bytes.ofText "--") then rest.tail else rest)
        | none =>
          if (Bytes.ofText "s").isPrefixOf name then
            match signal? name.tail with
            | some signal => .ok (signal, rest)
            | none => .error (unknown name.tail)
          else .error (Bytes.ofText "Illegal option -" ++ name.take 1)
      | _ => .ok (15, args)

/-- Send a signal. -/
def kill : Builtin := fun state args =>
  match killTargets args with
  | .error text => state.complain (Bytes.ofText "kill: " ++ text) 2
  | .ok (signal, targets) =>
    targets.foldl (fun state target =>
      match Filter.number? target with
      | none => state.complain (Bytes.ofText "kill: Illegal number: " ++ target) 2
      | some n =>
        if n ≠ processNumber && n ≠ 0 then state.complain (Bytes.ofText "kill: No such process") 1
        else if harmless.contains signal then state
        else { state with flow := .killed signal }) { state with status := 0 }

/-! ## All of them -/

/-- A program that is a command of the shell. -/
def ofUtility (name : String) (utility : Utility) : Builtin := fun state args =>
  state.call utility (state.speaker ++ ": " ++ name) args

/-- See whether a condition holds. -/
def test (name : String) : Builtin := fun state args =>
  let isBracket := name = "["
  if isBracket && args.getLast? ≠ some (Bytes.ofText "]") then
    state.complain (Bytes.ofText "[: missing ]") 2
  else
    match Condition.holds state.files (if isBracket then args.dropLast else args) with
    | .ok holds => { state with status := if holds then 0 else 1 }
    | .error text => state.complain (Bytes.ofText (name ++ ": ") ++ text) 2

/-- Write a template with the arguments put in. -/
def printf : Builtin := fun state args =>
  if args.isEmpty then
    state.complain (Bytes.ofText "printf: usage: printf format [arg ...]") 2
  else ofUtility "printf" (Filter.printf .shell) state args

/-- The commands whose faults end the shell, and with which settings last. -/
def special : List String :=
  [":", ".", "break", "continue", "eval", "exec", "exit", "export", "readonly", "return", "set",
    "shift", "times", "trap", "unset"]

/-- The command with a name. -/
def named? (name : String) : Option Builtin :=
  match name with
  | ":" | "true" => some (ended 0)
  | "false" => some (ended 1)
  | "echo" => some (ofUtility name Filter.echoEscaped)
  | "printf" => some printf
  | "test" | "[" => some (test name)
  | "exit" => some exit
  | "return" => some back
  | "break" => some (jump name .leave)
  | "continue" => some (jump name .again)
  | "shift" => some shift
  | "set" => some setFrom
  | "unset" => some unset
  | "export" => some (declare name fun state _ => state)
  | "readonly" => some fix
  | "local" => some own
  | "read" => some read
  | "cd" => some cd
  | "pwd" => some pwd
  | "kill" => some kill
  | "wait" | "hash" | "times" => some (ended 0)
  | "umask" => some fun state _ => { state.write 1 (Bytes.ofText "0022\n") with status := 0 }
  | _ => none

end Builtin

end Emend.Host.Shell
