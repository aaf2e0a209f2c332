/-
# Choices between expressions

`Expr.ofBranches` is a choice between expressions in its simplest form.  A choice among the branches
of a choice is a single one, characters to choose from become a set of characters, and parts that
all branches start with stand before the choice.

The last step bears on what is preferred: `x?ab|x?b` is the same as `x?(?:ab|b)`, where all branches
are tried after one way to match `x?` before the next way.
-/

import Emend.Pattern.Expr
import Emend.Text.Utf8

namespace Emend.Pattern

open Unicode

/-- Whether the members of a set are ASCII characters. -/
def isAsciiSet (set : Ranges) : Bool :=
  set.toList.all fun (_, last) => last < 0x80

namespace Expr

/-- The branches of a choice; any other expression is its own only branch. -/
def branches : Expr → List Expr
  | alt first rest => first :: rest.branches
  | expr => [expr]

/-- The parts of a sequence; any other expression has none. -/
def parts : Expr → List Expr
  | seq first (seq second rest) => first :: (seq second rest).parts
  | seq first last => [first, last]
  | _ => []

/-! ## Sets to choose from -/

/-- The only scalar that an expression matches, if it is a literal with just one. -/
def singleScalar? : Expr → Option Nat
  | literal bytes =>
    match Utf8.scalar? bytes with
    | some (c, length) => if length = bytes.length then some c.toNat else none
    | none => none
  | _ => none

/-- The only byte that an expression matches, if it is a literal with just one. -/
def singleByte? : Expr → Option Nat
  | literal [b] => some b.toNat
  | _ => none

/-- The scalars of which an expression matches any, if it is such a set. -/
def scalarSet? : Expr → Option Ranges
  | scalar set => some set
  | byte set => if isAsciiSet set then some set else none
  | _ => none

/-- The bytes of which an expression matches any, if it is such a set. -/
def byteSet? : Expr → Option Ranges
  | byte set => some set
  | scalar set => if isAsciiSet set then some set else none
  | _ => none

/-- The set that takes the place of a choice between single characters or between sets. -/
def joined? (branches : List Expr) : Option Expr :=
  let singles (members : List Nat) : Ranges := .ofRanges (members.map fun n => (n, n))
  let union (sets : List Ranges) : Ranges := .ofRanges (sets.flatMap (·.toList))
  ((branches.mapM singleScalar?).map fun members => ofScalars (singles members))
    <|> ((branches.mapM singleByte?).map fun members => ofByteSet (singles members))
    <|> ((branches.mapM scalarSet?).map fun sets => ofScalars (union sets))
    <|> ((branches.mapM byteSet?).map fun sets => ofByteSet (union sets))

/-! ## Parts in common -/

/-- What two sequences start with in common. -/
def commonStart : List Expr → List Expr → List Expr
  | a :: first, b :: second => if a = b then a :: commonStart first second else []
  | _, _ => []

/-- What all branches start with, if they are sequences. -/
def sharedStart : List Expr → List Expr
  | [] => []
  | first :: rest => rest.foldl (fun shared branch => commonStart shared branch.parts) first.parts

/-- A choice between branches, none of which is a choice, that need not start differently. -/
def chooseFrom (branches : List Expr) : Expr :=
  match joined? branches, branches.reverse with
  | some set, _ => set
  | none, [] => impossible
  | none, last :: before => before.foldl (fun rest branch => alt branch rest) last

/-- A choice between expressions in its simplest form.  Once what the branches share has been taken
out they start differently, so this is done only once. -/
def ofBranches (choices : List Expr) : Expr :=
  let choices := choices.flatMap branches
  match sharedStart choices with
  | [] => chooseFrom choices
  | shared =>
    let ends := choices.map fun branch =>
      ofReverse (branch.parts.drop shared.length).reverse
    ofReverse (chooseFrom (ends.flatMap branches) :: shared.reverse)

end Expr

end Emend.Pattern
