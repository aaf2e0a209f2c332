/-
# Replacement templates

A template is a text in which a dollar sign with a name or number stands for the text of a group.
The name is written in braces, or it goes as far as there are letters, digits and underscores; two
dollar signs are one, and a dollar sign before anything else stands for itself.
-/

import Emend.Text.Bytes

namespace Emend.Pattern

/-- A part of a template. -/
inductive TemplatePart where
  /-- A character that stands for itself. -/
  | char (c : Char)
  /-- The text of the group with a number. -/
  | number (index : Nat)
  /-- The text of the group with a name. -/
  | name (name : String)
  deriving Repr, DecidableEq

/-- Whether a character may stand in a name without braces. -/
def isReferenceChar (c : Char) : Bool :=
  c.isAlphanum || c = '_'

/-- The number that a name spells in decimal digits, which a plus sign may precede. -/
def referenceNumber? (name : List Char) : Option Nat :=
  let digits := match name with
    | '+' :: rest => rest
    | _ => name
  if digits.isEmpty || digits.any (!·.isDigit) then none
  else some (digits.foldl (fun n c => n * 10 + (c.toNat - '0'.toNat)) 0)

/-- The part that a name stands for. -/
def TemplatePart.ofName (name : List Char) : TemplatePart :=
  match referenceNumber? name with
  | some index => .number index
  | none => .name (String.ofList name)

/-- The reference that follows a dollar sign, if there is one, and how many characters it takes. -/
def referenceAfter? (rest : List Char) : Option (TemplatePart × Nat) :=
  match rest with
  | '$' :: _ => some (.char '$', 1)
  | '\x7b' :: rest =>
    let name := rest.takeWhile (· ≠ '\x7d')
    if name.length < rest.length then some (.ofName name, name.length + 2) else none
  | _ =>
    let name := rest.takeWhile isReferenceChar
    if name.isEmpty then none else some (.ofName name, name.length)

/-- The parts of a template, after those of `done`, which are in reverse.  The first `skip`
characters belong to the part last read. -/
def templateFrom (skip : Nat) (done : List TemplatePart) : List Char → List TemplatePart
  | [] => done.reverse
  | c :: rest =>
    match skip with
    | more + 1 => templateFrom more done rest
    | 0 =>
      if c = '$' then
        match referenceAfter? rest with
        | some (part, length) => templateFrom length (part :: done) rest
        | none => templateFrom 0 (.char c :: done) rest
      else templateFrom 0 (.char c :: done) rest

/-- A replacement for matches. -/
abbrev Template := List TemplatePart

/-- Read a template. -/
def Template.parse (text : String) : Template :=
  templateFrom 0 [] text.toList

/-- The bytes that a template stands for, given the texts of groups by number and the numbers of
groups by name.  A group that is unknown or took no part is empty. -/
def Template.expand (template : Template) (group : Nat → Bytes) (number? : String → Option Nat) :
    Bytes :=
  template.flatMap fun part =>
    match part with
    | .char c => String.utf8EncodeChar c
    | .number index => group index
    | .name name => (number? name).elim [] group

end Emend.Pattern
