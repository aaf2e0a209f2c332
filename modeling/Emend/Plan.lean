/-
# Plans

A plan resolves the path of every entry and compiles its rules, in order.  No file is looked at, so
a plan says what is wrong with the patterns of a configuration wherever it would be run.
-/

import Emend.Config.Basic

namespace Emend

/-- An entry with its path resolved and its rules compiled. -/
structure PlannedEntry where
  /-- The path as it is declared. -/
  declared : String
  /-- The path of the file. -/
  path : Path
  rules : RuleSet
  deriving Repr

/-- Compile the rules of an entry for the file at a path. -/
def Entry.compile (entry : Entry) (path : Path) : Except Failure RuleSet :=
  (RuleSet.compile entry.literals entry.patterns).mapError (.patternInvalid path)

/-- Resolve the path of an entry and compile its rules. -/
def Configuration.planEntry (config : Configuration) (entry : Entry) :
    Except Failure PlannedEntry := do
  let path := config.resolve entry.file
  return { declared := entry.file, path, rules := ← entry.compile path }

/-- Resolve the paths of all entries and compile their rules.  No file is looked at. -/
def Configuration.plan (config : Configuration) : Except Failure (List PlannedEntry) :=
  config.entries.mapM config.planEntry

end Emend
