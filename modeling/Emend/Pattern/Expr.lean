/-
# Regular expressions

`Expr` is what a pattern means once flags and properties have been taken into account: an
expression over bytes, in which a character stands for the bytes of its encoding.
-/

import Emend.Text.Bytes
import Emend.Pattern.Tree
import Emend.Unicode.Ranges

namespace Emend.Pattern

open Unicode

/-- A condition on a place in a content. -/
inductive Look where
  /-- The start of the content. -/
  | textStart
  /-- The end of the content. -/
  | textEnd
  /-- The start of a line; with carriage returns, these end lines too, alone or before a line
  feed. -/
  | lineStart (carriageReturns : Bool)
  /-- The end of a line. -/
  | lineEnd (carriageReturns : Bool)
  /-- An edge of a word of Unicode or of ASCII word characters. -/
  | word (unicode : Bool) (edge : WordEdge)
  deriving Repr, DecidableEq

/-- A regular expression over bytes. -/
inductive Expr where
  /-- The empty text. -/
  | empty
  /-- Given bytes, at least one. -/
  | literal (bytes : Bytes)
  /-- The encoding of one scalar in a set. -/
  | scalar (set : Ranges)
  /-- One byte in a set. -/
  | byte (set : Ranges)
  /-- The empty text where a condition holds. -/
  | look (kind : Look)
  /-- One expression after another. -/
  | seq (first second : Expr)
  /-- One of two expressions, the first one if possible. -/
  | alt (first second : Expr)
  /-- At least `least` and at most `most` times an expression, as often as possible if `greedy`
  and as rarely as possible otherwise. -/
  | rep (least : Nat) (most : Option Nat) (greedy : Bool) (part : Expr)
  /-- An expression whose text is kept under a number. -/
  | capture (index : Nat) (part : Expr)
  deriving Repr, DecidableEq, Inhabited

namespace Expr

/-- Whether the expression matches nothing but the empty text. -/
def isHollow : Expr → Bool
  | empty => true
  | look _ => true
  | seq first second => first.isHollow && second.isHollow
  | alt first second => first.isHollow && second.isHollow
  | rep _ most _ part => most = some 0 || part.isHollow
  | capture _ part => part.isHollow
  | _ => false

/-- Whether each part of the expression has a match, as far as empty sets tell. -/
def isPossible : Expr → Bool
  | scalar set => !set.isEmpty
  | byte set => !set.isEmpty
  | seq first second => first.isPossible && second.isPossible
  | alt first second => first.isPossible && second.isPossible
  | rep _ _ _ part => part.isPossible
  | capture _ part => part.isPossible
  | _ => true

/-- Whether every match of the expression has at least one byte; a sequence of which a part has no
matches counts as one that may be empty. -/
def isSolid : Expr → Bool
  | empty => false
  | literal bytes => !bytes.isEmpty
  | scalar set => !set.isEmpty
  | byte set => !set.isEmpty
  | look _ => false
  | seq first second =>
    first.isPossible && second.isPossible && (first.isSolid || second.isSolid)
  | alt first second => first.isSolid && second.isSolid
  | rep least _ _ part => least ≠ 0 && part.isSolid
  | capture _ part => part.isSolid

/-- The expression without matches. -/
def impossible : Expr := byte .empty

/-- One character of a set; if there is just one, its bytes. -/
def ofScalars (set : Ranges) : Expr :=
  match set.toList with
  | [] => impossible
  | [(first, last)] =>
    if first = last then literal (String.utf8EncodeChar (Char.ofNat first)) else scalar set
  | _ => scalar set

/-- One byte of a set. -/
def ofByteSet (set : Ranges) : Expr :=
  match set.toList with
  | [(first, last)] => if first = last then literal [UInt8.ofNat first] else byte set
  | _ => byte set

/-- One expression before another.  The empty text disappears, literals grow together and a sequence
in a sequence is taken apart. -/
def andThen : Expr → Expr → Expr
  | empty, second => second
  | seq first rest, second => seq first (andThen rest second)
  | first, empty => first
  | literal a, literal b => literal (a ++ b)
  | literal a, seq (literal b) rest => seq (literal (a ++ b)) rest
  | first, second => seq first second

/-- Expressions one after the other, given from the last. -/
def ofReverse (parts : List Expr) : Expr :=
  parts.foldl (fun rest part => andThen part rest) empty

/-- A repetition.  Of an expression that matches only the empty text, one time is as good as many;
no repetition at all is the empty text and exactly one is the expression itself. -/
def repeated (least : Nat) (most : Option Nat) (greedy : Bool) (part : Expr) : Expr :=
  let (least, most) :=
    if part.isHollow then (min least 1, some ((most.map (min · 1)).getD 1)) else (least, most)
  if most = some 0 then empty
  else if least = 1 ∧ most = some 1 then part
  else rep least most greedy part

end Expr

end Emend.Pattern
