/-
# Configurations

A configuration lists files in packages, each with the substitutions to be made in it.  Packages
only group: what counts is the sequence of all entries.
-/

import Emend.Formatter
import Emend.Path
import Emend.Rule

namespace Emend

/-- A file and what is to be substituted in it. -/
structure Entry where
  /-- The path of the file, as it is declared: by a text. -/
  file : String
  /-- Texts to be replaced; these come first. -/
  literals : List Substitution := []
  /-- Patterns to be replaced. -/
  patterns : List Substitution := []
  deriving Repr, DecidableEq

/-- A group of entries. -/
structure Package where
  entries : List Entry := []
  deriving Repr, DecidableEq

/-- What is to be done, and how. -/
structure Configuration where
  packages : List Package := []
  /-- The directory that declared paths are relative to. -/
  directory : Option Path := none
  /-- What is done to each content after the substitutions. -/
  formatter : Option Formatter := none

/-- A setting that no document makes. -/
inductive Setting where
  | directory (directory : Path)
  | formatter (formatter : Formatter)

namespace Configuration

/-- All entries, in order. -/
def entries (config : Configuration) : List Entry := config.packages.flatMap Package.entries

/-- The path of a declared file. -/
def resolve (config : Configuration) (file : Path) : Path :=
  match config.directory with
  | some directory => directory.join file
  | none => file

/-- The configuration with a setting made; one that was made before is forgotten. -/
def set (config : Configuration) : Setting → Configuration
  | .directory directory => { config with directory := some directory }
  | .formatter formatter => { config with formatter := some formatter }

/-- The configuration with several settings made, one after the other. -/
def apply (config : Configuration) (settings : List Setting) : Configuration :=
  settings.foldl set config

end Configuration

end Emend
