/-
# Commands and switches

The commands of the program, the switches that each takes, and how both are shown.
-/

import Emend.Text.Bytes

namespace Emend.CommandLine

/-! ## Switches -/

/-- What can be set on the command line. -/
inductive Switch where
  | config
  | dir
  | formatCmd
  | formatArg
  | init
  | force
  | verbose
  | help
  | version
  deriving Repr, DecidableEq

/-- What a switch does when it is given. -/
inductive Effect where
  /-- Takes a value, once. -/
  | set
  /-- Takes a value, each time. -/
  | append
  /-- Is turned on, once. -/
  | turnOn
  /-- Counts how often it is given. -/
  | count
  /-- Ends the program with a text. -/
  | show
  deriving Repr, DecidableEq

namespace Switch

/-- The name of a switch after two dashes. -/
def long : Switch → String
  | config => "config"
  | dir => "dir"
  | formatCmd => "format-cmd"
  | formatArg => "format-arg"
  | init => "init"
  | force => "force"
  | verbose => "verbose"
  | help => "help"
  | version => "version"

/-- The name of a switch after one dash. -/
def short? : Switch → Option Char
  | config => some 'c'
  | dir => some 'C'
  | verbose => some 'v'
  | help => some 'h'
  | version => some 'V'
  | _ => none

def effect : Switch → Effect
  | config | dir | formatCmd => .set
  | formatArg => .append
  | init | force => .turnOn
  | verbose => .count
  | help | version => .show

/-- The name of the value that a switch takes. -/
def valueName? : Switch → Option String
  | config => some "FILE"
  | dir => some "DIR"
  | formatCmd => some "PROGRAM"
  | formatArg => some "ARG"
  | _ => none

def takesValue (switch : Switch) : Bool := switch.valueName?.isSome

/-- Whether the value of a switch may look like a switch. -/
def allowsHyphens (switch : Switch) : Bool := switch = formatArg

/-- Whether the value of a switch is a path. -/
def takesPath (switch : Switch) : Bool := switch = config || switch = dir

/-- The switch without which another one makes no sense. -/
def requires? : Switch → Option Switch
  | formatArg => some formatCmd
  | force => some init
  | _ => none

/-- A switch as it is written, with a name for its value. -/
def shown (switch : Switch) : String :=
  "--" ++ switch.long ++ match switch.valueName? with
    | some name => " <" ++ name ++ ">"
    | none => if switch.effect = .count then "..." else ""

def about : Switch → String
  | config => "Configuration file listing files and their rules [default: regen.yaml]"
  | dir => "Base directory for file paths (defaults to the config file's directory)"
  | formatCmd => "Formatter program to pipe each rewritten file through (e.g. gofmt)"
  | formatArg => "Argument passed to the formatter program (repeatable)"
  | init => "Create a template regen.yaml in the current directory"
  | force => "Overwrite existing regen.yaml when using --init"
  | verbose => "Increase log verbosity (-v info, -vv debug)"
  | help => "Print help"
  | version => "Print version"

end Switch

/-! ## Commands -/

/-- What the program can be told to do. -/
inductive Command where
  /-- The program itself: run the configuration. -/
  | main
  /-- Explain the commands of the program. -/
  | mainHelp
  | config
  | configShow
  | configValidate
  /-- Explain the commands for configurations. -/
  | configHelp
  deriving Repr, DecidableEq

namespace Command

def name : Command → String
  | main => "regen"
  | config => "config"
  | configShow => "show"
  | configValidate => "validate"
  | mainHelp | configHelp => "help"

/-- The words with which a command is called. -/
def words : Command → String
  | main => "regen"
  | mainHelp => "regen help"
  | config => "regen config"
  | configShow => "regen config show"
  | configValidate => "regen config validate"
  | configHelp => "regen config help"

def about : Command → String
  | main => "CLI tool for patching generated source files with declarative find/replace rules"
  | config => "Configuration management commands"
  | configShow => "Display the parsed configuration"
  | configValidate => "Check the configuration and compile every pattern without touching files"
  | mainHelp | configHelp => "Print this message or the help of the given subcommand(s)"

/-- The commands within a command. -/
def commands : Command → List Command
  | main => [config, mainHelp]
  | config => [configShow, configValidate, configHelp]
  | _ => []

/-- Whether a command explains others. -/
def isHelp : Command → Bool
  | mainHelp | configHelp => true
  | _ => false

/-- The switches that a command takes. -/
def switches : Command → List Switch
  | main => [.config, .dir, .formatCmd, .formatArg, .init, .force, .verbose, .help, .version]
  | config | configShow | configValidate => [.config, .dir, .verbose, .help]
  | mainHelp | configHelp => []

/-- The switches of a command that belong together, as the settings of one run. -/
def group (command : Command) : List Switch :=
  match command with
  | main => command.switches.filter (·.effect ≠ .show)
  | _ => []

/-- Whether a command does nothing without a command within it. -/
def needsCommand (command : Command) : Bool := command = config

/-- The command within a command that a word names. -/
def command? (command : Command) (word : Bytes) : Option Command :=
  command.commands.find? fun inner => Bytes.ofText inner.name = word

/-- The switch that a word after two dashes names. -/
def long? (command : Command) (word : String) : Option Switch :=
  command.switches.find? (·.long = word)

/-- The switch that a letter after one dash names. -/
def letter? (command : Command) (letter : Char) : Option Switch :=
  command.switches.find? (·.short? = some letter)

/-! ## Texts -/

/-- How a command is used in general. -/
def usage (command : Command) : String :=
  command.words ++ match command with
    | main => " [OPTIONS] [COMMAND]"
    | config => " [OPTIONS] <COMMAND>"
    | mainHelp | configHelp => " [COMMAND]..."
    | configShow | configValidate => " [OPTIONS]"

/-- How a command is used with certain switches; without any it is how it is used in general. -/
def usageWith (command : Command) (switches : List Switch) : String :=
  if switches.isEmpty then command.usage
  else
    switches.foldl (fun text switch => text ++ " " ++ switch.shown) command.words
      ++ if command.needsCommand then " <COMMAND>" else ""

/-- How a command is used with a switch when switches that belong together have been given: these
stand for the whole group. -/
def usageInGroup (command : Command) (switch : Switch) : String :=
  command.words ++ (if command.group.contains switch then "" else " " ++ switch.shown)
    ++ " <" ++ String.intercalate "|" (command.group.map Switch.shown) ++ ">"

/-- Lines that explain terms, with the explanations in one column. -/
def glossary (terms : List (String × String)) : String :=
  let width := (terms.map (·.1.length)).foldl max 0
  String.join <| terms.map fun (term, explanation) =>
    "  " ++ term ++ String.ofList (List.replicate (width - term.length) ' ') ++ "  "
      ++ explanation ++ "\n"

/-- A switch with all its names. -/
def switchTerm (switch : Switch) : String :=
  (match switch.short? with
    | some letter => String.ofList ['-', letter, ',', ' ']
    | none => "    ")
  ++ switch.shown

/-- The text that explains a command. -/
def help (command : Command) : String :=
  let section? (title : String) (terms : List (String × String)) : String :=
    if terms.isEmpty then "" else "\n" ++ title ++ ":\n" ++ glossary terms
  command.about ++ "\n\nUsage: " ++ command.usage ++ "\n"
    ++ section? "Commands" (command.commands.map fun inner => (inner.name, inner.about))
    ++ section? "Arguments"
      (if command.isHelp then [("[COMMAND]...", "Print help for the subcommand(s)")] else [])
    ++ section? "Options" (command.switches.map fun switch => (switchTerm switch, switch.about))

end Command

/-- The text that tells the version. -/
def versionText : String := "regen 0.1.0\n"

end Emend.CommandLine
