/-
# Sets of code points

A set of code points is kept as its maximal ranges in increasing order.  The same type serves for
sets of bytes; only complements depend on the greatest member that a set may have.
-/

namespace Emend.Unicode

/-- A set of numbers, as a list of inclusive ranges.  The operations below return the maximal
ranges of their result in increasing order. -/
structure Ranges where
  /-- The ranges, from the least. -/
  toList : List (Nat × Nat)
  deriving Repr, DecidableEq, Inhabited

namespace Ranges

/-- The greatest Unicode code point. -/
def maxScalar : Nat := 0x10FFFF

/-- The greatest byte. -/
def maxByte : Nat := 0xFF

/-- The set without members. -/
def empty : Ranges := ⟨[]⟩

/-- The numbers from `first` to `last`. -/
def interval (first last : Nat) : Ranges := ⟨[(first, last)]⟩

/-- The set with one member. -/
def single (n : Nat) : Ranges := interval n n

/-- Whether a number lies in one of the ranges, which are in increasing order. -/
def containsFrom (n : Nat) : List (Nat × Nat) → Bool
  | [] => false
  | (first, last) :: rest => if n < first then false else n ≤ last || containsFrom n rest

/-- Whether a number is in the set. -/
def contains (set : Ranges) (n : Nat) : Bool :=
  containsFrom n set.toList

/-- Whether the set has no members. -/
def isEmpty (set : Ranges) : Bool :=
  set.toList.isEmpty

/-- Join ranges that overlap or touch.  The ranges come in the order of their least members;
`done` holds those joined so far, the last one first. -/
def joinFrom (done : List (Nat × Nat)) : List (Nat × Nat) → List (Nat × Nat)
  | [] => done.reverse
  | (first, last) :: rest =>
    match done with
    | (first', last') :: done' =>
      if first ≤ last' + 1 then joinFrom ((first', max last last') :: done') rest
      else joinFrom ((first, last) :: done) rest
    | [] => joinFrom [(first, last)] rest

/-- The set of the numbers in any of the given ranges. -/
def ofRanges (ranges : List (Nat × Nat)) : Ranges :=
  ⟨joinFrom [] (ranges.mergeSort fun a b => a.1 ≤ b.1)⟩

/-- The members of either set. -/
def union (a b : Ranges) : Ranges :=
  ofRanges (a.toList ++ b.toList)

/-- The gaps between ranges in increasing order, the first of which may begin at `start`, up to
`greatest`. -/
def gapsFrom (greatest start : Nat) (done : List (Nat × Nat)) :
    List (Nat × Nat) → List (Nat × Nat)
  | [] => (if start ≤ greatest then (start, greatest) :: done else done).reverse
  | (first, last) :: rest =>
    gapsFrom greatest (last + 1) (if start < first then (start, first - 1) :: done else done) rest

/-- The numbers up to `greatest` that are not in the set. -/
def complement (greatest : Nat) (set : Ranges) : Ranges :=
  ⟨gapsFrom greatest 0 [] set.toList⟩

/-- The members of both sets. -/
def inter (greatest : Nat) (a b : Ranges) : Ranges :=
  complement greatest (union (complement greatest a) (complement greatest b))

/-- The members of the first set that are not in the second. -/
def diff (greatest : Nat) (a b : Ranges) : Ranges :=
  inter greatest a (complement greatest b)

/-- The members of exactly one of the sets. -/
def symmDiff (greatest : Nat) (a b : Ranges) : Ranges :=
  union (diff greatest a b) (diff greatest b a)

/-! ## Written tables -/

/-- The value of a hexadecimal digit written in upper case. -/
def digitValue (c : Char) : Nat :=
  if c ≤ '9' then c.toNat - '0'.toNat else c.toNat - 'A'.toNat + 10

/-- What has been read of a written table: the ranges in reverse, the start of the range under way
and the number under way. -/
structure Reading where
  done : List (Nat × Nat) := []
  start : Option Nat := none
  number : Option Nat := none

/-- Close the range under way, if there is one. -/
def Reading.close (r : Reading) : Reading :=
  match r.number with
  | some n => { done := (r.start.getD n, n) :: r.done }
  | none => r

/-- Read one character of a table: a digit, a hyphen inside a range, or a blank after one. -/
def Reading.step (r : Reading) (c : Char) : Reading :=
  if c = ' ' || c = '\n' then r.close
  else if c = '-' then { done := r.done, start := r.number }
  else { r with number := some (r.number.getD 0 * 16 + digitValue c) }

/-- The set that a table describes: hexadecimal numbers and ranges, set apart by blanks and in
increasing order. -/
def ofTable (table : String) : Ranges :=
  ⟨(table.foldl Reading.step {}).close.done.reverse⟩

end Ranges

end Emend.Unicode
