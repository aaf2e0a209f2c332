/-
# Compiled patterns

`Regex.compile` reads a pattern and prepares it for searching.  `Regex.find?` is a single search
and `Regex.allMatches` the searches that a replacement makes, one after the other.
-/

import Emend.Pattern.Meaning
import Emend.Pattern.Reader
import Emend.Pattern.Search
import Emend.Pattern.Size
import Emend.Pattern.Template

namespace Emend.Pattern

/-- Why a pattern is refused. -/
inductive CompileError where
  /-- It breaks a rule. -/
  | fault (fault : Fault)
  /-- It is too large. -/
  | tooLarge
  deriving Repr, DecidableEq

/-- Why `pattern` is refused, in words. -/
def CompileError.message (pattern : String) : CompileError → String
  | fault broken => broken.report pattern
  | tooLarge => "Compiled regex exceeds size limit of " ++ sizeLimit.repr ++ " bytes."

/-- How a pattern is searched for. -/
inductive Strategy where
  /-- It is a text without operators. -/
  | literal (bytes : Bytes)
  /-- A program is run from an instruction on. -/
  | program (entry : Nat) (program : Program)
  deriving Repr

/-- A compiled pattern. -/
structure Regex where
  /-- How it is searched for. -/
  strategy : Strategy
  /-- The numbers of its groups that have names. -/
  groupNames : List (String × Nat)
  /-- The number of groups, that of the whole match included. -/
  groupCount : Nat
  deriving Repr

/-- One match: where it starts and stops, and the same for each group that took part. -/
structure Match where
  start : Nat
  stop : Nat
  /-- The groups, by number. -/
  groups : List (Option (Nat × Nat))
  deriving Repr, DecidableEq

namespace Expr

/-- The greatest number of a group. -/
def lastGroup : Expr → Nat
  | .seq first second => max first.lastGroup second.lastGroup
  | .alt first second => max first.lastGroup second.lastGroup
  | .rep _ _ _ part => part.lastGroup
  | .capture index part => max index part.lastGroup
  | _ => 0

end Expr

namespace Regex

/-- Prepare an expression for searching. -/
def ofExpr (expr : Expr) (groupNames : List (String × Nat)) : Regex :=
  let groupCount := expr.lastGroup + 1
  match expr with
  | .literal bytes => { strategy := .literal bytes, groupNames, groupCount }
  | _ =>
    let (entry, program) := expr.program
    { strategy := .program entry program, groupNames, groupCount }

/-- Read a pattern and prepare it for searching. -/
def compile (pattern : String) : Except CompileError Regex :=
  match Tree.parse pattern with
  | .error fault => .error (.fault fault)
  | .ok tree =>
    match tree.meaning with
    | .error fault => .error (.fault fault)
    | .ok expr =>
      if expr.fits then .ok (ofExpr expr tree.groupNames) else .error .tooLarge

/-- Whether the bytes at a position are the given ones. -/
def standsAt (content : Array UInt8) (position : Nat) : Bytes → Bool
  | [] => true
  | b :: rest => content[position]? = some b && standsAt content (position + 1) rest

/-- The first position of a literal among `count` positions from `position` on. -/
def findLiteral? (literal : Bytes) (content : Array UInt8) (position : Nat) : Nat → Option Nat
  | 0 => none
  | count + 1 =>
    if standsAt content position literal then some position
    else findLiteral? literal content (position + 1) count

/-- The two positions noted for a group, if both are. -/
def groupOf (slots : Slots) (index : Nat) : Option (Nat × Nat) :=
  match slots[2 * index]?, slots[2 * index + 1]? with
  | some (some start), some (some stop) => some (start, stop)
  | _, _ => none

/-- The first match that starts at or after a position. -/
def find? (regex : Regex) (content : Array UInt8) (position : Nat) : Option Match :=
  match regex.strategy with
  | .literal bytes =>
    match findLiteral? bytes content position (content.size + 1 - position - bytes.length) with
    | some start =>
      let stop := start + bytes.length
      some { start, stop, groups := [some (start, stop)] }
    | none => none
  | .program entry program =>
    match program.search entry (2 * regex.groupCount) content position with
    | some slots =>
      match groupOf slots 0 with
      | some (start, stop) =>
        some { start, stop, groups := (List.range regex.groupCount).map (groupOf slots) }
      | none => none
    | none => none

/-- The matches from a position on, after those of `done`, which are in reverse.  `lastStop` is
where the match before stops.  An empty match there does not count: the search goes on one byte
later.  Every match but an empty one moves the position, and no two empty matches follow each other
at one position, so `fuel` need not exceed the number of positions by more than one. -/
def matchesFrom (regex : Regex) (content : Array UInt8) (position : Nat) (lastStop : Option Nat)
    (done : List Match) : (fuel : Nat) → List Match
  | 0 => done.reverse
  | fuel + 1 =>
    match regex.find? content position with
    | none => done.reverse
    | some found =>
      if found.start = found.stop ∧ lastStop = some found.stop then
        match regex.find? content (position + 1) with
        | none => done.reverse
        | some found =>
          matchesFrom regex content found.stop (some found.stop) (found :: done) fuel
      else matchesFrom regex content found.stop (some found.stop) (found :: done) fuel

/-- The matches of a content from left to right, none of which overlap. -/
def allMatches (regex : Regex) (content : Array UInt8) : List Match :=
  regex.matchesFrom content 0 none [] (content.size + 2)

/-- The number of the group with a name. -/
def groupNumber? (regex : Regex) (name : String) : Option Nat :=
  regex.groupNames.lookup name

/-- The text of a group of a match; empty if it took no part. -/
def groupText (content : Array UInt8) (found : Match) (index : Nat) : Bytes :=
  match found.groups[index]? with
  | some (some (start, stop)) => (content.extract start stop).toList
  | _ => []

/-- The content from a position on, of which `rest` is what is left, with matches replaced; `done`
is the result so far, in reverse. -/
def spliceFrom (replacement : Match → Bytes) (position : Nat) (done : Bytes) :
    List Match → Bytes → Bytes
  | [], rest => done.reverse ++ rest
  | found :: later, rest =>
    let before := rest.take (found.start - position)
    let rest := rest.drop (found.stop - position)
    let done := (replacement found).reverse ++ (before.reverse ++ done)
    spliceFrom replacement found.stop done later rest

/-- A content with each match replaced by what a template stands for, or `none` when there is no
match. -/
def replace? (regex : Regex) (template : Template) (content : Bytes) : Option Bytes :=
  let array := content.toArray
  match regex.allMatches array with
  | [] => none
  | found :: later =>
    let replacement (found : Match) : Bytes :=
      template.expand (groupText array found) regex.groupNumber?
    some (spliceFrom replacement 0 [] (found :: later) content)

end Regex

end Emend.Pattern
