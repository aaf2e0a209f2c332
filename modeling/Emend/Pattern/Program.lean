/-
# Programs that search

A program is a regular expression laid out as numbered instructions.  It is built from the end:
`Expr.assemble` appends the instructions of an expression whose matches go on at a given one, and
returns the instruction where they start.
-/

import Emend.Pattern.Expr

namespace Emend.Pattern

open Unicode

/-- One step of a search. -/
inductive Instruction where
  /-- Read a given byte. -/
  | exactly (value : UInt8) (next : Nat)
  /-- Read a byte of a set. -/
  | byte (set : Ranges) (next : Nat)
  /-- Read the encoding of a scalar of a set. -/
  | scalar (set : Ranges) (next : Nat)
  /-- Go on if a condition holds. -/
  | look (kind : Look) (next : Nat)
  /-- Note the position in a slot. -/
  | save (slot next : Nat)
  /-- Go on in two ways, of which the first is preferred. -/
  | branch (first second : Nat)
  /-- A match ends here. -/
  | accept
  deriving Repr, DecidableEq, Inhabited

/-- Numbered instructions. -/
abbrev Program := Array Instruction

namespace Program

/-- Append an instruction; its number comes first. -/
def emit (program : Program) (instruction : Instruction) : Nat × Program :=
  (program.size, program.push instruction)

/-- Append a choice between going on and something else; the first is preferred if `greedy`. -/
def emitChoice (program : Program) (greedy : Bool) (onward other : Nat) : Nat × Program :=
  program.emit (if greedy then .branch onward other else .branch other onward)

/-- Put a choice in place of an instruction. -/
def placeChoice (program : Program) (number : Nat) (greedy : Bool) (onward other : Nat) :
    Program :=
  program.setIfInBounds number (if greedy then .branch onward other else .branch other onward)

/-- Append the bytes of a literal, given from the last. -/
def emitBytes (program : Program) (next : Nat) : Bytes → Nat × Program
  | [] => (next, program)
  | b :: before =>
    let (entry, program) := program.emit (.exactly b next)
    program.emitBytes entry before

/-- Do something to a program `count` times, each time going on where the last began. -/
def emitTimes (part : Nat → Program → Nat × Program) (next : Nat) (program : Program) :
    Nat → Nat × Program
  | 0 => (next, program)
  | count + 1 =>
    let (entry, program) := part next program
    emitTimes part entry program count

/-- Do something to a program at most `count` times: before each time it is possible to stop. -/
def emitUpTo (part : Nat → Program → Nat × Program) (greedy : Bool) (next inner : Nat)
    (program : Program) : Nat → Nat × Program
  | 0 => (inner, program)
  | count + 1 =>
    let (entry, program) := part inner program
    let (entry, program) := program.emitChoice greedy entry next
    emitUpTo part greedy next entry program count

end Program

open Program in
/-- Append the instructions of an expression to a program so that its matches go on at `next`.
The answer is the instruction where they start.

A loop around a part that may match the empty text is entered through a choice of its own, so that
the order of preference is that of trying the part first. -/
def Expr.assemble (next : Nat) (program : Program) : Expr → Nat × Program
  | .empty => (next, program)
  | .literal bytes => program.emitBytes next bytes.reverse
  | .scalar set => program.emit (.scalar set next)
  | .byte set => program.emit (.byte set next)
  | .look kind => program.emit (.look kind next)
  | .seq first second =>
    let (entry, program) := second.assemble next program
    first.assemble entry program
  | .alt first second =>
    let (entry₂, program) := second.assemble next program
    let (entry₁, program) := first.assemble next program
    program.emit (.branch entry₁ entry₂)
  | .rep least none greedy part =>
    let (loop, program) := program.emit (.accept)
    let (entry, program) := part.assemble loop program
    let program := program.placeChoice loop greedy entry next
    match least with
    | 0 => if part.isSolid then (loop, program) else program.emitChoice greedy entry next
    | more + 1 => emitTimes (fun next program => part.assemble next program) entry program more
  | .rep least (some most) greedy part =>
    let (entry, program) :=
      emitUpTo (fun next program => part.assemble next program) greedy next next program
        (most - least)
    emitTimes (fun next program => part.assemble next program) entry program least
  | .capture index part =>
    let (entry, program) := program.emit (.save (2 * index + 1) next)
    let (entry, program) := part.assemble entry program
    program.emit (.save (2 * index) entry)

/-- The program of an expression, and the instruction where it starts.  The text of the whole match
is kept under the number zero. -/
def Expr.program (expr : Expr) : Nat × Program :=
  (Expr.capture 0 expr).assemble 0 #[.accept]

end Emend.Pattern
