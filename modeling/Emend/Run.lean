/-
# Runs

A run has two passes.  The first one decides for every entry whether there is a file and compiles
its rules, so that a bad pattern ends the run before any file is touched.  The second one emends
the files one after the other, each in the state in which the ones before have left it.
-/

import Emend.Host.FileSystem
import Emend.Log.Event
import Emend.Plan

namespace Emend

/-- What the first pass makes of an entry. -/
inductive Step where
  /-- There is no file. -/
  | skip (declared : String) (path : Path)
  | emend (entry : PlannedEntry)
  deriving Repr

/-- What became of the files of a run, by path and in order. -/
structure Summary where
  /-- Files whose content changed. -/
  changed : List Path := []
  /-- Files that were written with the content they had. -/
  unchanged : List Path := []
  /-- Files that there were not. -/
  skipped : List Path := []
  deriving Repr, DecidableEq

/-- What became of one file. -/
inductive Fate where
  | changed
  | unchanged
  | skipped
  deriving Repr, DecidableEq

/-- A summary with one more file, which comes before the others. -/
def Summary.record (path : Path) : Fate → Summary → Summary
  | .changed, summary => { summary with changed := path :: summary.changed }
  | .unchanged, summary => { summary with unchanged := path :: summary.unchanged }
  | .skipped, summary => { summary with skipped := path :: summary.skipped }

/-- What the second pass asks of the system and of the formatter. -/
inductive Request where
  /-- To open what a path leads to. -/
  | opened (path : Path)
  | read (handle : FileSystem.Handle)
  /-- To format a content. -/
  | formatted (content : Bytes)
  /-- To replace what was read by a content. -/
  | replaced (handle : FileSystem.Handle) (content : Bytes)
  deriving Repr, DecidableEq

/-- What is asked of a formatter, if there is one. -/
def Request.toFormatter (formatter : Option Formatter) (content : Bytes) : List Request :=
  match formatter with
  | none => []
  | some _ => [.formatted content]

/-- What the system refuses of the work on one opened file. -/
structure Mishap where
  /-- Why the file cannot be read. -/
  reading? : Option SystemError := none
  /-- The step at which its content cannot be replaced, and why. -/
  writing? : Option FileSystem.Refusal := none
  deriving Repr, DecidableEq

/-- What the system refuses of the work on opened files, in the order in which they are opened. -/
abbrev Mishaps := Nat → Mishap

/-- Nothing is refused. -/
def Mishaps.none : Mishaps := fun _ => {}

/-- What is refused after so many files. -/
def Mishaps.after (mishaps : Mishaps) (count : Nat) : Mishaps := fun n => mishaps (count + n)

/-- What some work on files leaves behind, also if it fails. -/
structure Trail (α : Type) where
  files : FileSystem
  /-- What was asked for, in order, whether it was granted or refused. -/
  requests : List Request := []
  events : List Event := []
  outcome : Except Failure α

/-- The events of applying rules and a formatter. -/
def RuleSet.events (rules : RuleSet) (formatter : Option Formatter) (content : Bytes) :
    List Event :=
  (rules.steps content).map (fun step =>
    if step.matched then Event.ruleMatched step.rule else .ruleNotMatched step.rule)
  ++ match formatter with
    | none => []
    | some formatter =>
      let input := rules.apply content
      match formatter.program?, formatter.format input with
      | some program, .ok output => [.formatted program input.length output.length]
      | _, _ => []

/-- Emend an opened file in place. -/
def PlannedEntry.emendOpened (entry : PlannedEntry) (formatter : Option Formatter)
    (files : FileSystem) (handle : FileSystem.Handle) (mishap : Mishap := {}) : Trail Fate :=
  match files.read handle mishap.reading? with
  | .error cause =>
    { files, requests := [.read handle], outcome := .error (.notRead entry.path cause) }
  | .ok content =>
    let events := entry.rules.events formatter content
    let requests := .read handle :: Request.toFormatter formatter (entry.rules.apply content)
    match entry.rules.emend formatter content with
    | .error cause =>
      { files, requests, events, outcome := .error (.notFormatted entry.path cause) }
    | .ok output =>
      let requests := requests ++ [.replaced handle output]
      match files.replace handle output mishap.writing? with
      | (files, .error cause) =>
        { files, requests, events, outcome := .error (.notWritten entry.path cause) }
      | (files, .ok ()) =>
        if output = content then
          { files, requests, events := events ++ [.contentUnchanged entry.path]
            outcome := .ok .unchanged }
        else
          { files, requests, events := events ++ [.fileChanged entry.path entry.rules.length]
            outcome := .ok .changed }

/-- Emend the file of an entry, if there is one by now. -/
def PlannedEntry.emend (entry : PlannedEntry) (formatter : Option Formatter)
    (files : FileSystem) (mishap : Mishap := {}) : Trail Fate :=
  let request := Request.opened entry.path
  match files.openFile entry.path with
  | .ok handle =>
    let trail := entry.emendOpened formatter files handle mishap
    { trail with requests := request :: trail.requests }
  | .error .notFound =>
    { files, requests := [request], events := [.fileMissing entry.declared]
      outcome := .ok .skipped }
  | .error cause =>
    { files, requests := [request], outcome := .error (.notOpened entry.path cause) }

namespace Step

/-- The path of the file. -/
def path : Step → Path
  | skip _ path => path
  | emend entry => entry.path

/-- Do what the first pass has decided. -/
def perform (formatter : Option Formatter) (files : FileSystem) (step : Step)
    (mishap : Mishap := {}) : Trail Fate :=
  match step with
  | skip declared _ => { files, events := [.fileMissing declared], outcome := .ok .skipped }
  | emend entry => entry.emend formatter files mishap

/-- What is refused after a step; one that skips its file opens none. -/
def mishapsAfter (mishaps : Mishaps) : Step → Mishaps
  | skip .. => mishaps
  | emend _ => mishaps.after 1

/-- Do one step after the other, until one fails. -/
def performAll (formatter : Option Formatter) (files : FileSystem) (steps : List Step)
    (mishaps : Mishaps := .none) : Trail Summary :=
  match steps with
  | [] => { files, outcome := .ok {} }
  | step :: steps =>
    let first := step.perform formatter files (mishaps 0)
    match first.outcome with
    | .error failure => { first with outcome := .error failure }
    | .ok fate =>
      let others := performAll formatter first.files steps (step.mishapsAfter mishaps)
      { others with
        requests := first.requests ++ others.requests
        events := first.events ++ others.events
        outcome := others.outcome.map (Summary.record step.path fate) }

end Step

namespace Configuration

/-- Decide what is to be done for an entry.  That its path cannot be followed is found out when the
file is opened. -/
def stepOf (config : Configuration) (files : FileSystem) (entry : Entry) : Except Failure Step :=
  let path := config.resolve entry.file
  match files.exists? path with
  | .ok false => .ok (.skip entry.file path)
  | _ => (config.planEntry entry).map .emend

/-- The first pass: decide for all entries. -/
def steps (config : Configuration) (files : FileSystem) : Except Failure (List Step) :=
  config.entries.mapM (config.stepOf files)

/-- Run a configuration on files. -/
def run (config : Configuration) (files : FileSystem) (mishaps : Mishaps := .none) :
    Trail Summary :=
  match config.steps files with
  | .error failure => { files, outcome := .error failure }
  | .ok steps =>
    let trail := Step.performAll config.formatter files steps mishaps
    match trail.outcome with
    | .error _ => trail
    | .ok summary =>
      { trail with events := trail.events ++
        [.finished summary.changed.length summary.unchanged.length summary.skipped.length] }

end Configuration

end Emend
