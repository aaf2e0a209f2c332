/-
# The structure of a pattern

`Tree` is a pattern as it is written: every part knows its place, and nothing has been decided yet
that depends on flags or on the properties of characters.
-/

import Emend.Pattern.Fault

namespace Emend.Pattern

/-- Which edge of a word a boundary assertion asks for. -/
inductive WordEdge where
  /-- Either edge. -/
  | either
  /-- No edge. -/
  | neither
  /-- The start. -/
  | start
  /-- The end. -/
  | stop
  /-- No word character before. -/
  | startHalf
  /-- No word character after. -/
  | stopHalf
  deriving Repr, DecidableEq

/-- A condition on a place in the text, as it is written. -/
inductive Assertion where
  | lineStart
  | lineEnd
  | textStart
  | textEnd
  | word (edge : WordEdge)
  deriving Repr, DecidableEq

/-- A class of characters with a one-letter escape. -/
inductive Shorthand where
  | digit
  | space
  | word
  deriving Repr, DecidableEq

/-- A class of ASCII characters with a name in brackets. -/
inductive AsciiClass where
  | alnum
  | alpha
  | ascii
  | blank
  | cntrl
  | digit
  | graph
  | lower
  | print
  | punct
  | space
  | upper
  | word
  | xdigit
  deriving Repr, DecidableEq

/-- The class with a given name. -/
def AsciiClass.named? : String → Option AsciiClass
  | "alnum" => some .alnum
  | "alpha" => some .alpha
  | "ascii" => some .ascii
  | "blank" => some .blank
  | "cntrl" => some .cntrl
  | "digit" => some .digit
  | "graph" => some .graph
  | "lower" => some .lower
  | "print" => some .print
  | "punct" => some .punct
  | "space" => some .space
  | "upper" => some .upper
  | "word" => some .word
  | "xdigit" => some .xdigit
  | _ => none

/-- A question about a Unicode property. -/
inductive PropertyQuery where
  /-- A property that characters have or lack. -/
  | named (name : String)
  /-- A property with a value. -/
  | valued (property value : String)
  deriving Repr, DecidableEq

/-- A single character, as it is written. -/
structure Literal where
  span : Span
  char : Char
  /-- Whether it is written as two hexadecimal digits, which give a byte where Unicode is off. -/
  isByte : Bool := false
  deriving Repr, DecidableEq

/-- A class of characters with an escape. -/
inductive ClassEscape where
  | shorthand (kind : Shorthand)
  | property (query : PropertyQuery)
  deriving Repr, DecidableEq

/-- The operations on bracketed classes. -/
inductive ClassOperator where
  | intersection
  | difference
  | symmetricDifference
  deriving Repr, DecidableEq

/-- What stands inside the brackets of a class. -/
inductive ClassSet where
  /-- Nothing. -/
  | empty (span : Span)
  /-- One character. -/
  | literal (lit : Literal)
  /-- All characters between two. -/
  | range (span : Span) (first last : Literal)
  /-- A named ASCII class. -/
  | ascii (span : Span) (negated : Bool) (kind : AsciiClass)
  /-- A class with an escape. -/
  | escape (span : Span) (negated : Bool) (kind : ClassEscape)
  /-- A class in its own brackets. -/
  | bracketed (span : Span) (negated : Bool) (inner : ClassSet)
  /-- Several of these side by side. -/
  | union (span : Span) (items : List ClassSet)
  /-- An operation on what stands left and right of its sign. -/
  | operation (span : Span) (operator : ClassOperator) (left right : ClassSet)
  deriving Repr, Inhabited

/-- The place of a part of a class. -/
def ClassSet.span : ClassSet → Span
  | .empty span => span
  | .literal lit => lit.span
  | .range span .. => span
  | .ascii span .. => span
  | .escape span .. => span
  | .bracketed span .. => span
  | .union span _ => span
  | .operation span .. => span

/-- The switches of a pattern. -/
inductive Flag where
  | ignoreCase
  | multiLine
  | dotMatchesLineBreak
  | swapGreed
  | unicode
  | carriageReturns
  | ignoreBlanks
  deriving Repr, DecidableEq

/-- The switch with a given letter. -/
def Flag.ofLetter? : Char → Option Flag
  | 'i' => some .ignoreCase
  | 'm' => some .multiLine
  | 's' => some .dotMatchesLineBreak
  | 'U' => some .swapGreed
  | 'u' => some .unicode
  | 'R' => some .carriageReturns
  | 'x' => some .ignoreBlanks
  | _ => none

/-- Switches turned on or off together. -/
abbrev Flags := List (Flag × Bool)

/-- How a group takes part in a match. -/
inductive GroupKind where
  /-- The text it matches is kept under a number, and under a name if it has one. -/
  | capture (index : Nat) (name : Option String)
  /-- Nothing is kept; the flags hold inside. -/
  | plain (flags : Flags)
  deriving Repr

/-- A pattern as it is written. -/
inductive Tree where
  /-- Nothing. -/
  | empty (span : Span)
  /-- Flags for the rest of the group. -/
  | flags (span : Span) (flags : Flags)
  /-- One character. -/
  | literal (lit : Literal)
  /-- The dot. -/
  | dot (span : Span)
  /-- A condition on the place. -/
  | assertion (span : Span) (kind : Assertion)
  /-- A class with an escape. -/
  | escape (span : Span) (negated : Bool) (kind : ClassEscape)
  /-- A class in brackets. -/
  | bracketed (span : Span) (negated : Bool) (inner : ClassSet)
  /-- A part repeated at least `least` and at most `most` times. -/
  | repetition (span : Span) (least : Nat) (most : Option Nat) (greedy : Bool) (part : Tree)
  /-- A part in parentheses. -/
  | group (span : Span) (kind : GroupKind) (part : Tree)
  /-- Parts of which one has to match. -/
  | alternation (span : Span) (parts : List Tree)
  /-- Parts that match one after the other. -/
  | sequence (span : Span) (parts : List Tree)
  deriving Repr, Inhabited

/-- The place of a part of a pattern. -/
def Tree.span : Tree → Span
  | .empty span => span
  | .flags span _ => span
  | .literal lit => lit.span
  | .dot span => span
  | .assertion span _ => span
  | .escape span .. => span
  | .bracketed span .. => span
  | .repetition span .. => span
  | .group span .. => span
  | .alternation span _ => span
  | .sequence span _ => span

/-- Parts one after the other; a single part stands for itself. -/
def Tree.ofSequence (span : Span) : List Tree → Tree
  | [] => .empty span
  | [part] => part
  | parts => .sequence span parts

/-- Parts side by side in a class; a single part stands for itself. -/
def ClassSet.ofUnion (span : Span) : List ClassSet → ClassSet
  | [] => .empty span
  | [item] => item
  | items => .union span items

/-! ## Depth -/

mutual

/-- The first part of a class, in the order of the pattern, that lies deeper than the limit when
the class itself lies at `depth`. -/
def ClassSet.tooDeep? (depth : Nat) : ClassSet → Option Span
  | .bracketed span _ inner =>
    if depth < nestLimit then inner.tooDeep? (depth + 1) else some span
  | .union span items =>
    if depth < nestLimit then ClassSet.anyTooDeep? (depth + 1) items else some span
  | .operation span _ left right =>
    if depth < nestLimit then
      match left.tooDeep? (depth + 1) with
      | some found => some found
      | none => right.tooDeep? (depth + 1)
    else some span
  | _ => none

/-- The same for parts of a class side by side. -/
def ClassSet.anyTooDeep? (depth : Nat) : List ClassSet → Option Span
  | [] => none
  | item :: items =>
    match item.tooDeep? depth with
    | some found => some found
    | none => ClassSet.anyTooDeep? depth items

end

mutual

/-- The first part of a pattern, in its order, that lies deeper than the limit when the pattern
itself lies at `depth`. -/
def Tree.tooDeep? (depth : Nat) : Tree → Option Span
  | .bracketed span _ inner =>
    if depth < nestLimit then inner.tooDeep? (depth + 1) else some span
  | .repetition span _ _ _ part =>
    if depth < nestLimit then part.tooDeep? (depth + 1) else some span
  | .group span _ part =>
    if depth < nestLimit then part.tooDeep? (depth + 1) else some span
  | .alternation span parts =>
    if depth < nestLimit then Tree.anyTooDeep? (depth + 1) parts else some span
  | .sequence span parts =>
    if depth < nestLimit then Tree.anyTooDeep? (depth + 1) parts else some span
  | _ => none

/-- The same for several parts. -/
def Tree.anyTooDeep? (depth : Nat) : List Tree → Option Span
  | [] => none
  | part :: parts =>
    match part.tooDeep? depth with
    | some found => some found
    | none => Tree.anyTooDeep? depth parts

end

end Emend.Pattern
