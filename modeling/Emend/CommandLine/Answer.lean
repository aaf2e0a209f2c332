/-
# Answering the command line

What the program does when it is called: what it writes, with which code it ends and how it leaves
the files.
-/

import Emend.CommandLine.Arguments
import Emend.CommandLine.Complaint
import Emend.Config.File
import Emend.Config.Template
import Emend.Host.Program
import Emend.Log.Filter
import Emend.Run

namespace Emend.CommandLine

/-- What a call of the program depends on besides the files. -/
structure Machine where
  /-- The programs that can be called as formatters. -/
  programs : Host.Programs
  /-- What is refused of the work on the files of a run. -/
  mishaps : Mishaps := .none

/-- What a call of the program leaves behind. -/
structure Answer where
  files : FileSystem
  /-- What a run has asked for, in order. -/
  requests : List Request := []
  /-- The code with which the program ends: zero if all went well, two for a wrong command line. -/
  exitCode : Nat := 0
  /-- What is written as the result. -/
  output : String := ""
  /-- What is written on the side. -/
  errors : String := ""

/-! ## Configurations -/

namespace Invocation

/-- The directory that declared paths are relative to: the one that is asked for, or the one that
holds the configuration, if that is not the one where the program runs. -/
def baseDirectory? (call : Invocation) : Option Path :=
  match call.dir with
  | some dir => some dir
  | none => (Path.parent? call.config).filter (!·.isEmpty)

/-- The configuration that is asked for, with its directory. -/
def configuration (call : Invocation) (files : FileSystem) : Except Failure Configuration :=
  (Configuration.load files call.config).map fun config =>
    config.apply (call.baseDirectory?.toList.map .directory)

/-- The configuration with the formatter that is asked for. -/
def withFormatter (call : Invocation) (programs : Host.Programs) (config : Configuration) :
    Configuration :=
  match call.formatProgram with
  | some program => config.set (.formatter (.ofCommand programs program call.formatArguments))
  | none => config

/-- What goes before a failure to have the configuration. -/
def loadingContext (call : Invocation) : String :=
  "Failed to load configuration: " ++ call.config.display

/-! ## What is done -/

/-- A failure, in a context, as the last word. -/
def fail (files : FileSystem) (log context : String) (failure : Failure) : Answer :=
  { files, exitCode := 1
    errors := log ++ Complaint.display context (failure.message :: failure.causes) }

/-- Set up a configuration to start from. -/
def setUp (call : Invocation) (files : FileSystem) : Answer :=
  let path := defaultConfig
  let isThere := match files.exists? path with
    | .ok isThere => isThere
    | .error _ => false
  if isThere && !call.force then
    { files, exitCode := 1
      errors := Complaint.display (path.display ++ " already exists. Use --force to overwrite.") [] }
  else
    match files.writeFile path (Bytes.ofText Configuration.template) with
    | .ok files => { files, output := "Created " ++ path.display ++ "\n" }
    | .error cause =>
      { files, exitCode := 1
        errors := Complaint.display ("Failed to write " ++ path.display) [cause.message] }

/-- A substitution as it is shown. -/
def showSubstitution (kind : String) (rule : Substitution) : String :=
  "    " ++ kind ++ ": " ++ Quoted.quote rule.find ++ " -> "
    ++ Quoted.quote rule.replacement ++ "\n"

/-- An entry as it is shown. -/
def showEntry (entry : Entry) : String :=
  "  file: " ++ entry.file ++ "\n"
    ++ String.join (entry.literals.map (showSubstitution "string"))
    ++ String.join (entry.patterns.map (showSubstitution "regexp"))

/-- Packages as they are shown, the first one with a number. -/
def showPackages (number : Nat) : List Package → String
  | [] => ""
  | package :: packages =>
    "Package " ++ number.repr ++ ":\n" ++ String.join (package.entries.map showEntry) ++ "\n"
      ++ showPackages (number + 1) packages

/-- Show the configuration. -/
def showConfiguration (call : Invocation) (files : FileSystem) : Answer :=
  match call.configuration files with
  | .error failure => fail files "" call.loadingContext failure
  | .ok config =>
    { files
      output := "# Source: " ++ call.config.display ++ "\n"
        ++ (config.directory.map fun directory =>
            "# directory: " ++ directory.display ++ "\n").getD ""
        ++ "# packages: " ++ config.packages.length.repr ++ "\n\n"
        ++ showPackages 1 config.packages }

/-- Check the configuration. -/
def validate (call : Invocation) (files : FileSystem) : Answer :=
  let refuse (context : String) (failure : Failure) : Answer :=
    { files, exitCode := 1
      errors := "Configuration error: "
        ++ Complaint.inLine context (failure.message :: failure.causes) ++ "\n" }
  match call.configuration files with
  | .error failure => refuse call.loadingContext failure
  | .ok config =>
    match config.plan with
    | .error failure => refuse "Invalid rule" failure
    | .ok planned =>
      { files
        output := "Configuration is valid: " ++ call.config.display ++ " ("
          ++ config.packages.length.repr ++ " packages, " ++ planned.length.repr ++ " files)\n" }

/-- Run the configuration. -/
def regenerate (call : Invocation) (machine : Machine) (log : LogFilter) (files : FileSystem) :
    Answer :=
  match call.configuration files with
  | .error failure => fail files "" call.loadingContext failure
  | .ok config =>
    let trail := (call.withFormatter machine.programs config).run files machine.mishaps
    let written := log.write trail.events
    match trail.outcome with
    | .error failure =>
      { fail trail.files written "Failed to regenerate files" failure with
        requests := trail.requests }
    | .ok summary =>
      { files := trail.files, requests := trail.requests, errors := written
        output := String.join (summary.changed.map fun path => "rewrote " ++ path.display ++ "\n")
          ++ String.join (summary.unchanged.map fun path => "unchanged " ++ path.display ++ "\n") }

/-- Do what is asked for. -/
def answer (call : Invocation) (machine : Machine) (log : LogFilter) (files : FileSystem) :
    Answer :=
  if call.init then call.setUp files
  else
    match call.command with
    | .configShow => call.showConfiguration files
    | .configValidate => call.validate files
    | _ => call.regenerate machine log files

/-- The paths that may be read or written, as far as the configuration can be had. -/
def paths (call : Invocation) (files : FileSystem) : List Path :=
  call.config :: defaultConfig ::
    match call.configuration files with
    | .ok config => config.entries.map fun entry => config.resolve entry.file
    | .error _ => []

/-- The log filter that holds: the one that the environment sets, if it makes sense. -/
def logFilter (call : Invocation) (setting? : Option String) : LogFilter :=
  (setting?.bind LogFilter.parse?).getD (.ofVerbosity call.verbosity)

end Invocation

/-- Say why there is nothing to be done. -/
def Ending.answer (files : FileSystem) : Ending → Answer
  | .help command => { files, output := command.help }
  | .helpNeeded command => { files, exitCode := 2, errors := command.help }
  | .version => { files, output := versionText }
  | .wrong error => { files, exitCode := 2, errors := error.message }

/-- Answer a call with some words, given the setting of the log filter in the environment. -/
def answer (machine : Machine) (words : List Bytes) (logSetting? : Option String)
    (files : FileSystem) : Answer :=
  match Invocation.parse words with
  | .ok call => call.answer machine (call.logFilter logSetting?) files
  | .error ending => ending.answer files

/-- The paths that may be read or written to answer a call. -/
def paths (words : List Bytes) (files : FileSystem) : List Path :=
  match Invocation.parse words with
  | .ok call => call.paths files
  | .error _ => []

end Emend.CommandLine
