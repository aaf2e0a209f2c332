/-
# Wrong command lines

What can be wrong with the words that the program is called with, and the text that says so.
-/

import Emend.CommandLine.Command
import Emend.Text.Visible

namespace Emend.CommandLine

/-- What is wrong with the words for a command. -/
inductive UsageError where
  /-- A word makes no sense.  Perhaps a switch was meant; `given` are the switches before it. -/
  | unknownArgument (command : Command) (word : String) (meant? : Option Switch)
      (given : List Switch)
  /-- A command comes after the dashes that end the switches. -/
  | commandAfterDashes (command : Command) (word : String)
  /-- There is no such command; some with similar names are given. -/
  | unknownCommand (command : Command) (word : String) (similar : List Command)
  /-- There should be a command within the command. -/
  | commandMissing (command : Command)
  /-- A switch has no value. -/
  | valueMissing (switch : Switch)
  /-- The value of a switch is no text, and no path. -/
  | noText (command : Command)
  /-- A switch has a value that it does not take. -/
  | valueNotTaken (command : Command) (switch : Switch) (value : String) (given : List Switch)
  /-- A switch is given too often. -/
  | repeated (command : Command) (switch : Switch)
  /-- Switches are missing that other ones require. -/
  | switchesMissing (command : Command) (missing : List Switch) (mentioned : List Switch)
  deriving Repr, DecidableEq

namespace UsageError

/-- Words in quotes and with commas. -/
def quoted (words : List String) : String :=
  String.intercalate ", " (words.map fun word => "'" ++ word ++ "'")

/-- What is wrong, in words.  Of a word from the command line only what a terminal shows appears. -/
def fault : UsageError → String
  | unknownArgument _ word _ _ | commandAfterDashes _ word =>
    "unexpected argument '" ++ Visible.ofText word ++ "' found"
  | unknownCommand _ word _ => "unrecognized subcommand '" ++ Visible.ofText word ++ "'"
  | commandMissing command =>
    "'" ++ command.words ++ "' requires a subcommand but one was not provided\n  [subcommands: "
      ++ String.intercalate ", " (command.commands.map Command.name) ++ "]"
  | valueMissing switch =>
    "a value is required for '" ++ switch.shown ++ "' but none was supplied"
  | noText _ => "invalid UTF-8 was detected in one or more arguments"
  | valueNotTaken _ switch value _ =>
    "unexpected value '" ++ Visible.ofText value ++ "' for '" ++ switch.shown
      ++ "' found; no more were expected"
  | repeated _ switch => "the argument '" ++ switch.shown ++ "' cannot be used multiple times"
  | switchesMissing _ missing _ =>
    "the following required arguments were not provided:"
      ++ String.join (missing.map fun switch => "\n  " ++ switch.shown)

/-- What might help. -/
def tip? : UsageError → Option String
  | unknownArgument _ _ (some meant) _ =>
    some ("a similar argument exists: " ++ quoted ["--" ++ meant.long])
  | commandAfterDashes _ word =>
    some ("subcommand '" ++ word ++ "' exists; to use it, remove the '--' before it")
  | unknownCommand _ _ [similar] =>
    some ("a similar subcommand exists: " ++ quoted [similar.name])
  | unknownCommand _ _ (first :: second :: others) =>
    some ("some similar subcommands exist: "
      ++ quoted ((first :: second :: others).map Command.name))
  | _ => none

/-- How the command is used, perhaps with the switches that matter. -/
def usage? : UsageError → Option String
  | unknownArgument command _ meant? given =>
    some (command.usageWith (given ++ (meant?.filter (!given.contains ·)).toList))
  | commandAfterDashes command _ | unknownCommand command _ _ | commandMissing command
  | noText command | repeated command _ => some command.usage
  | valueMissing _ => none
  | valueNotTaken command switch _ given =>
    some (if given.any command.group.contains then command.usageInGroup switch
      else command.usageWith (given ++ if given.contains switch then [] else [switch]))
  | switchesMissing command _ mentioned => some (command.usageWith mentioned)

/-- The command that the words were for, if it matters. -/
def command? : UsageError → Option Command
  | unknownArgument command .. | commandAfterDashes command _ | unknownCommand command ..
  | commandMissing command | noText command | valueNotTaken command .. | repeated command _
  | switchesMissing command .. => some command
  | valueMissing _ => none

/-- The whole text.  Commands without a switch for help do not point to it. -/
def message (error : UsageError) : String :=
  "error: " ++ error.fault
    ++ (error.tip?.map fun tip => "\n\n  tip: " ++ tip).getD ""
    ++ (error.usage?.map fun usage => "\n\nUsage: " ++ usage).getD ""
    ++ if error.command?.any Command.isHelp then "\n"
      else "\n\nFor more information, try '--help'.\n"

end UsageError

end Emend.CommandLine
