/-
# Scripts

A script is made of commands.  Their words are kept as they are written: what stands in for a
parameter, a command or a sum is found out when the command is run.
-/

namespace Emend.Host.Shell

/-- What becomes of the value of a parameter.  The texts are words in the making. -/
inductive Change where
  /-- It is taken as it is. -/
  | same
  /-- Its length is taken. -/
  | length
  /-- A sign (`-`, `=`, `?` or `+`) tells what the word is for; `orEmpty` tells whether an empty
  value counts as none. -/
  | instead (sign : Char) (orEmpty : Bool) (word : List Char)
  /-- What matches a pattern at the beginning or at the end is left out. -/
  | without (atEnd longest : Bool) (pattern : List Char)
  deriving Repr, DecidableEq

/-- A part of a word.  What stands in for an unquoted part is split into words. -/
inductive Piece where
  | text (chars : List Char) (quoted : Bool)
  | parameter (name : List Char) (change : Change) (quoted : Bool)
  /-- The output of a script. -/
  | command (script : List Char) (quoted : Bool)
  /-- The value of an expression. -/
  | arithmetic (expression : List Char) (quoted : Bool)
  deriving Repr, DecidableEq

/-- A word as it is written. -/
abbrev Word := List Piece

/-- Where a redirection leads. -/
inductive Redirect where
  /-- The input comes from a file. -/
  | read (path : Word)
  /-- The output goes to a file. -/
  | write (path : Word) (append : Bool)
  /-- A stream becomes the same as another one. -/
  | copy (stream : Word)
  /-- The input is a text. -/
  | here (text : Word)
  deriving Repr, DecidableEq

/-- A redirection of a stream. -/
structure Redirection where
  stream : Nat
  target : Redirect
  deriving Repr, DecidableEq

/-- A command of words. -/
structure Simple where
  line : Nat
  /-- Variables that are set before the command. -/
  settings : List (List Char × Word) := []
  words : List Word := []
  redirections : List Redirection := []
  deriving Repr, DecidableEq

/-- Commands. -/
inductive Script where
  /-- Nothing. -/
  | empty
  | simple (command : Simple)
  /-- One after the other. -/
  | sequence (first second : Script)
  /-- The second if the first succeeds. -/
  | andThen (first second : Script)
  /-- The second if the first fails. -/
  | orElse (first second : Script)
  | negated (body : Script)
  /-- The output of the first is the input of the second. -/
  | pipe (first second : Script)
  | background (body : Script)
  /-- In a shell of its own. -/
  | subshell (body : Script)
  | redirected (body : Script) (line : Nat) (redirections : List Redirection)
  | choice (condition yes no : Script)
  /-- As long as a condition succeeds or, `isUntil`, fails. -/
  | loop (isUntil : Bool) (condition body : Script)
  /-- For each of some words, or of the arguments. -/
  | each (name : List Char) (words? : Option (List Word)) (body : Script)
  /-- The body if a word matches one of some patterns, and otherwise another choice of this kind. -/
  | cases (word : Word) (patterns : List Word) (body otherwise : Script)
  | function (name : List Char) (body : Script)
  deriving Repr, Inhabited

end Emend.Host.Shell
