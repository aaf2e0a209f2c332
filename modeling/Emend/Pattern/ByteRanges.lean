/-
# Sets of characters as byte ranges

A set of scalars is read byte by byte as sequences of byte ranges: an encoding of a member has a
byte of each range of one sequence, and all such bytes together are the encoding of a member.
-/

import Emend.Unicode.Ranges

namespace Emend.Pattern

open Unicode

/-- A range of bytes at each position of an encoding. -/
abbrev ByteRanges := List (Nat × Nat)

/-- The least scalars that take one more byte than those below. -/
def lengthLimits : List Nat := [0x80, 0x800, 0x10000]

/-- Cut a range before each of the given numbers that lie inside it. -/
def cutAt (limits : List Nat) (first last : Nat) : List (Nat × Nat) :=
  match limits with
  | [] => [(first, last)]
  | limit :: limits =>
    if first < limit ∧ limit ≤ last then (first, limit - 1) :: cutAt limits limit last
    else cutAt limits first last

/-- The ranges of bytes that encode a range of scalars of which each tail byte but the first one
that differs goes over all its values, if it is such a range; otherwise parts of it.  The scalars
have `tails` tail bytes, and `after` are the ranges of the bytes after those. -/
def tailRanges (first last : Nat) : (tails : Nat) → List ByteRanges
  | 0 => [[(first, last)]]
  | tails + 1 =>
    let block := 64 ^ (tails + 1)
    if first / block = last / block then
      (tailRanges (first % block) (last % block) tails).map fun rest =>
        (first / block, first / block) :: rest
    else
      let full := List.replicate (tails + 1) (0, 63)
      let low :=
        if first % block = 0 then []
        else (tailRanges (first % block) (block - 1) tails).map fun rest =>
          (first / block, first / block) :: rest
      let high :=
        if last % block = block - 1 then []
        else (tailRanges 0 (last % block) tails).map fun rest =>
          (last / block, last / block) :: rest
      let from' := if first % block = 0 then first / block else first / block + 1
      let upTo := if last % block = block - 1 then last / block + 1 else last / block
      let middle := if from' < upTo then [(from', upTo - 1) :: full] else []
      low ++ middle ++ high

/-- Ranges of tail bytes, given without the bits that mark them. -/
def markTails (ranges : ByteRanges) : ByteRanges :=
  ranges.map fun (first, last) => (0x80 + first, 0x80 + last)

/-- Ranges of the bytes of an encoding, given without the bits that mark their place in it. -/
def mark (ranges : ByteRanges) : ByteRanges :=
  let lead (bits : Nat) : Nat × Nat → Nat × Nat := fun (first, last) => (bits + first, bits + last)
  match ranges with
  | [] => []
  | [byte] => [byte]
  | [first, a] => lead 0xC0 first :: markTails [a]
  | [first, a, b] => lead 0xE0 first :: markTails [a, b]
  | first :: tails => lead 0xF0 first :: markTails tails

/-- The sequences of byte ranges for a set of scalars, in order. -/
def byteRanges (set : Ranges) : List ByteRanges :=
  let scalars := set.diff Ranges.maxScalar (.interval 0xD800 0xDFFF)
  (scalars.toList.flatMap fun (first, last) => cutAt lengthLimits first last).flatMap
    fun (first, last) =>
      let tails := (lengthLimits.filter (· ≤ first)).length
      (tailRanges first last tails).map mark

end Emend.Pattern
