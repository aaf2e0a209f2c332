/-
# Reading the command line

The words of a command line are read from left to right.  The value of a switch is looked at only
when the next switch comes or the words end, so what is wrong with it may come to light after
something that is wrong further on.  A word is a sequence of bytes, and where it stands for a path
it need not be a text.
-/

import Emend.CommandLine.Similarity
import Emend.CommandLine.UsageError
import Emend.Path

namespace Emend.CommandLine

/-- How the reading ends when there is nothing to be run. -/
inductive Ending where
  /-- A command is to be explained. -/
  | help (command : Command)
  /-- A command needs more words, and has none. -/
  | helpNeeded (command : Command)
  | version
  | wrong (error : UsageError)
  deriving Repr, DecidableEq

/-! ## Words -/

/-- What a word looks like. -/
inductive Word where
  /-- Two dashes, which end the switches. -/
  | dashes
  /-- A name after two dashes, perhaps with a value after an equals sign. -/
  | long (name : String) (value? : Option Bytes)
  /-- Letters after one dash. -/
  | letters (letters : Bytes)
  | plain
  deriving Repr, DecidableEq

/-- What a word looks like. -/
def Word.ofBytes : Bytes → Word
  | [0x2D, 0x2D] => .dashes
  | 0x2D :: 0x2D :: rest =>
    .long (Utf8.lossy (rest.takeWhile (· ≠ 0x3D)))
      (match rest.dropWhile (· ≠ 0x3D) with
        | _ :: value => some value
        | [] => none)
  | [0x2D] => .plain
  | 0x2D :: rest => .letters rest
  | _ => .plain

/-- The letter that comes first, or all that is left where no letter comes. -/
def firstLetter (letters : Bytes) : String :=
  match Utf8.scalar? letters with
  | some (letter, _) => String.singleton letter
  | none => Utf8.lossy letters

/-! ## Switches of one command -/

/-- The switches given to a command so far. -/
structure Given where
  /-- Switches with their values, in the order in which they were first given. -/
  values : List (Switch × List Bytes) := []
  /-- A switch whose value has not come yet or not been looked at yet. -/
  pending : Option (Switch × Option Bytes) := none
  deriving Repr, DecidableEq

namespace Given

def switches (given : Given) : List Switch := given.values.map Prod.fst

def has (given : Given) (switch : Switch) : Bool := given.switches.contains switch

/-- The values of a switch, if it is given. -/
def values? (given : Given) (switch : Switch) : Option (List Bytes) := given.values.lookup switch

def erase (given : Given) (switch : Switch) : Given :=
  { given with values := given.values.filter (·.1 ≠ switch) }

/-- One more value for a switch, which keeps its place if it has one. -/
def add (given : Given) (switch : Switch) (value : Bytes) : Given :=
  if given.has switch then
    { given with values := given.values.map fun entry =>
        if entry.1 = switch then (switch, entry.2 ++ [value]) else entry }
  else { given with values := given.values ++ [(switch, [value])] }

/-- The switch whose value has not come yet. -/
def awaiting? (given : Given) : Option Switch :=
  match given.pending with
  | some (switch, none) => some switch
  | _ => none

/-- Let a word be the value that has not come yet. -/
def supply (given : Given) (word : Bytes) : Given :=
  { given with pending := given.pending.map fun pending => (pending.1, some word) }

/-- What is wrong with the value of a switch: a path must not be empty, and any other value is a
text. -/
def fault? (command : Command) (switch : Switch) (value : Bytes) : Option UsageError :=
  if switch.takesPath then if value.isEmpty then some (.valueMissing switch) else none
  else if (Utf8.text? value).isNone then some (.noText command) else none

/-- Take the value of a switch.  Also when something is wrong with it, the switch counts as given,
save that a second value takes the first one away. -/
def take (given : Given) (command : Command) (switch : Switch) (value : Bytes) :
    Given × Option UsageError :=
  if switch.effect = .set && given.has switch then
    (given.erase switch, some (.repeated command switch))
  else
    (given.add switch value, fault? command switch value)

/-- Take the value that has not been looked at yet. -/
def settle (given : Given) (command : Command) : Given × Option UsageError :=
  let rest := { given with pending := none }
  match given.pending with
  | none => (given, none)
  | some (switch, none) => (rest, some (.valueMissing switch))
  | some (switch, some value) => rest.take command switch value

/-- An error, if there is one, ends the reading. -/
def check : Given × Option UsageError → Except Ending Given
  | (given, none) => .ok given
  | (_, some error) => .error (.wrong error)

/-- Read a switch that comes with its value. -/
def setTo (given : Given) (command : Command) (switch : Switch) (value : Bytes) :
    Except Ending Given := do
  let given ← check (given.settle command)
  check (given.take command switch value)

/-- Read a switch whose value is to come. -/
def await (given : Given) (command : Command) (switch : Switch) : Except Ending Given := do
  let given ← check (given.settle command)
  return { given with pending := some (switch, none) }

/-- Read a switch that has no value. -/
def turn (given : Given) (command : Command) (switch : Switch) : Except Ending Given := do
  let given ← check (given.settle command)
  match switch.effect with
  | .show => throw (if switch = .version then .version else .help command)
  | .count =>
    let earlier := (given.values? switch).getD []
    let others := (given.erase switch).values
    return { given with values := others ++ [(switch, earlier ++ [[]])] }
  | _ =>
    if given.has switch then throw (.wrong (.repeated command switch))
    return given.add switch []

/-- Read a name after two dashes, perhaps with a value. -/
def readLong (given : Given) (command : Command) (name : String) (value? : Option Bytes) :
    Except Ending Given :=
  match command.long? name with
  | some switch =>
    match switch.takesValue, value? with
    | true, some value => given.setTo command switch value
    | true, none => given.await command switch
    | false, some value =>
      .error (.wrong (.valueNotTaken command switch (Utf8.lossy value) given.switches))
    | false, none => given.turn command switch
  | none =>
    let meant? := (Similarity.similar name Switch.long command.switches).getLast?
    .error (.wrong (.unknownArgument command ("--" ++ name) meant?
      (given.settle command).1.switches))

/-- Read letters after one dash.  A switch that takes a value takes all letters after it, less an
equals sign in between. -/
def readLetters (given : Given) (command : Command) : Bytes → Except Ending Given
  | [] => .ok given
  | letter :: rest =>
    match command.letter? (Char.ofNat letter.toNat) with
    | none =>
      .error (.wrong (.unknownArgument command ("-" ++ firstLetter (letter :: rest)) none []))
    | some switch =>
      if switch.takesValue then
        match rest with
        | [] => given.await command switch
        | 0x3D :: value => given.setTo command switch value
        | value => given.setTo command switch value
      else
        match given.turn command switch with
        | .ok given => readLetters given command rest
        | .error ending => .error ending

/-- The switches that others among those given require. -/
def required (given : Given) : List Switch := (given.switches.filterMap Switch.requires?).eraseDups

/-- Look at the whole when the words end. -/
def finish (given : Given) (command : Command) (hasCommand : Bool) : Except Ending Given := do
  let given ← check (given.settle command)
  if !hasCommand && command.needsCommand then
    throw (if given.values.isEmpty then .helpNeeded command else .wrong (.commandMissing command))
  let missing := given.required.filter (!given.has ·)
  unless missing.isEmpty do
    throw (.wrong (.switchesMissing command missing
      (given.required ++ given.switches ++ missing).eraseDups))
  return given

end Given

/-! ## Commands -/

/-- The answer to a request to explain the command that words name. -/
def explain (command : Command) : List Bytes → Ending
  | [] => .help command
  | word :: words =>
    match command.command? word with
    | some inner => explain inner words
    | none => .wrong (.unknownCommand command (Utf8.lossy word) [])

/-- What is wrong with a word that is neither a switch nor a value nor a command. -/
def strayWord (command : Command) (afterDashes : Bool) (word : Bytes) : UsageError :=
  let shown := Utf8.lossy word
  if afterDashes && (command.command? word).isSome then .commandAfterDashes command shown
  else if command.commands.isEmpty then .unknownArgument command shown none []
  else .unknownCommand command shown (Similarity.similar shown Command.name command.commands)

/-- Read the words for a command, given what has been read of them.  The answer holds the commands
that are named, each within the one before, with the switches given to each. -/
def readWords (command : Command) (given : Given) (afterDashes : Bool) :
    List Bytes → Except Ending (List (Command × Given))
  | [] => do return [(command, ← given.finish command false)]
  | word :: words =>
    if afterDashes then .error (.wrong (strayWord command true word))
    else if given.awaiting?.any Switch.allowsHyphens then
      readWords command (given.supply word) false words
    else
      match (if given.awaiting?.isSome then none else command.command? word) with
      | some inner =>
        if inner.isHelp then .error (explain command words)
        else do
          let below ← readWords inner {} false words
          return (command, ← given.finish command true) :: below
      | none =>
        match Word.ofBytes word with
        | .dashes => readWords command given true words
        | .long name value? => do
          readWords command (← given.readLong command name value?) false words
        | .letters letters => do
          readWords command (← given.readLetters command letters) false words
        | .plain =>
          if given.awaiting?.isSome then readWords command (given.supply word) false words
          else .error (.wrong (strayWord command false word))

/-! ## Invocations -/

/-- What the command line asks for. -/
structure Invocation where
  /-- The innermost command that is named. -/
  command : Command
  /-- The file of the configuration. -/
  config : Path
  /-- The directory that paths are relative to. -/
  dir : Option Path
  /-- The program that formats contents. -/
  formatProgram : Option String
  formatArguments : List String
  /-- Whether a configuration is to be set up. -/
  init : Bool
  /-- Whether one that is there may be replaced. -/
  force : Bool
  /-- How often more reports are asked for. -/
  verbosity : Nat
  deriving Repr, DecidableEq

namespace Invocation

/-- The configuration that is used if none is named. -/
def defaultConfig : Path := "regen.yaml"

/-- What the switches of commands, each within the one before, ask for.  The innermost command to
which a switch is given decides about it. -/
def ofLevels (levels : List (Command × Given)) : Invocation :=
  let values? (switch : Switch) : Option (List Bytes) :=
    levels.reverse.findSome? fun level => level.2.values? switch
  let value? (switch : Switch) : Option Bytes := (values? switch).bind List.getLast?
  { command := (levels.getLast?.map Prod.fst).getD .main
    config := (value? .config).getD defaultConfig
    dir := value? .dir
    formatProgram := (value? .formatCmd).map Utf8.lossy
    formatArguments := ((values? .formatArg).getD []).map Utf8.lossy
    init := (values? .init).isSome
    force := (values? .force).isSome
    verbosity := ((values? .verbose).getD []).length }

/-- Read the words that the program is called with. -/
def parse (words : List Bytes) : Except Ending Invocation :=
  (readWords .main {} false words).map ofLevels

end Invocation

end Emend.CommandLine
