/-
# Searching

A search goes over a content byte by byte with a list of threads, in order of preference.  A thread
is a place in the program together with the positions noted on the way there.  At each position
every instruction is reached at most once, by the most preferred way, so the work at a position is
bounded by the size of the program.
-/

import Emend.Pattern.Program
import Emend.Text.Utf8
import Emend.Unicode.Property

namespace Emend.Pattern

open Unicode

/-! ## Conditions on a position -/

/-- Whether a byte is an ASCII word character. -/
def isWordByte (b : UInt8) : Bool :=
  (0x30 ≤ b && b ≤ 0x39) || (0x41 ≤ b && b ≤ 0x5A) || b = 0x5F || (0x61 ≤ b && b ≤ 0x7A)

/-- A neighbour of a position. -/
inductive Neighbour where
  /-- There is none: the content ends. -/
  | none
  /-- Bytes that are no character. -/
  | illFormed
  /-- A character. -/
  | char (c : Char)

/-- Whether the neighbour is a character of words. -/
def Neighbour.isWord : Neighbour → Bool
  | .char c => Property.isWord c
  | _ => false

/-- Whether the neighbour is not ill-formed. -/
def Neighbour.isSound : Neighbour → Bool
  | .illFormed => false
  | _ => true

/-- What follows a position. -/
def neighbourAfter (content : Array UInt8) (position : Nat) : Neighbour :=
  if position < content.size then
    match Utf8.scalarAt? content position with
    | some (c, _) => .char c
    | none => .illFormed
  else .none

/-- The last position at or before `position`, and at most `back` bytes before it, of a byte that
does not continue an encoded scalar. -/
def leadBefore (content : Array UInt8) (position : Nat) : Nat → Nat
  | 0 => position
  | back + 1 =>
    match content[position]? with
    | some b => if Utf8.isTail b then leadBefore content (position - 1) back else position
    | none => position

/-- What precedes a position: the scalar that starts at the closest byte before it, among the last
four, that can start one. -/
def neighbourBefore (content : Array UInt8) (position : Nat) : Neighbour :=
  if position = 0 then .none
  else
    let start := leadBefore content (position - 1) (min (position - 1) 3)
    match Utf8.scalarAt? content start with
    | some (c, length) => if start + length ≤ position then .char c else .illFormed
    | none => .illFormed

/-- Whether a position is an edge of a word, for the words of Unicode.  Where only one side counts
or no edge is asked for, ill-formed bytes are on neither side. -/
def isUnicodeEdge (content : Array UInt8) (position : Nat) (edge : WordEdge) : Bool :=
  let before := neighbourBefore content position
  let after := neighbourAfter content position
  match edge with
  | .either => before.isWord != after.isWord
  | .neither => before.isSound && after.isSound && before.isWord == after.isWord
  | .start => !before.isWord && after.isWord
  | .stop => before.isWord && !after.isWord
  | .startHalf => before.isSound && !before.isWord
  | .stopHalf => after.isSound && !after.isWord

/-- Whether a position is an edge of a word, for words of ASCII characters. -/
def isAsciiEdge (content : Array UInt8) (position : Nat) (edge : WordEdge) : Bool :=
  let before := position ≠ 0 && (content[position - 1]?).any isWordByte
  let after := (content[position]?).any isWordByte
  match edge with
  | .either => before != after
  | .neither => before == after
  | .start => !before && after
  | .stop => before && !after
  | .startHalf => !before
  | .stopHalf => !after

/-- Whether a condition holds at a position of a content. -/
def Look.holds (content : Array UInt8) (position : Nat) : Look → Bool
  | .textStart => position = 0
  | .textEnd => position = content.size
  | .lineStart false => position = 0 || content[position - 1]? = some 0x0A
  | .lineEnd false => position = content.size || content[position]? = some 0x0A
  | .lineStart true =>
    position = 0 || content[position - 1]? = some 0x0A
      || (content[position - 1]? = some 0x0D && content[position]? ≠ some 0x0A)
  | .lineEnd true =>
    position = content.size || content[position]? = some 0x0D
      || (content[position]? = some 0x0A
        && (position = 0 || content[position - 1]? ≠ some 0x0D))
  | .word true edge => isUnicodeEdge content position edge
  | .word false edge => isAsciiEdge content position edge

/-! ## Threads -/

/-- The positions noted on the way to a place in a program. -/
abbrev Slots := Array (Option Nat)

/-- A place in a program, reached in one way. -/
structure Thread where
  /-- The instruction to go on with. -/
  place : Nat
  /-- The number of bytes to pass over before, which belong to the character last read. -/
  delay : Nat
  slots : Slots

/-- The threads at a position, the most preferred first, and which instructions they and those on
the way to them have taken up. -/
structure Threads where
  list : Array Thread
  taken : Array Bool

/-- No threads yet, for a program of a given size. -/
def Threads.fresh (size : Nat) : Threads := ⟨#[], Array.replicate size false⟩

/-- Add the threads that are reached at a position from the places in `pending`, the first of which
is preferred, without reading anything. -/
def Threads.follow (program : Program) (content : Array UInt8) (position : Nat)
    (threads : Threads) (pending : List (Nat × Slots)) : Nat → Threads
  | 0 => threads
  | fuel + 1 =>
    match pending with
    | [] => threads
    | (place, slots) :: pending =>
      if threads.taken[place]? ≠ some false then
        threads.follow program content position pending fuel
      else
        let threads := { threads with taken := threads.taken.setIfInBounds place true }
        match program[place]? with
        | none => threads.follow program content position pending fuel
        | some (.look kind next) =>
          if kind.holds content position then
            threads.follow program content position ((next, slots) :: pending) fuel
          else threads.follow program content position pending fuel
        | some (.save slot next) =>
          threads.follow program content position
            ((next, slots.setIfInBounds slot (some position)) :: pending) fuel
        | some (.branch first second) =>
          threads.follow program content position
            ((first, slots) :: (second, slots) :: pending) fuel
        | some _ =>
          Threads.follow program content position
            { threads with list := threads.list.push ⟨place, 0, slots⟩ } pending fuel

/-- Add the threads that are reached from one place. -/
def Threads.enter (program : Program) (content : Array UInt8) (position : Nat)
    (threads : Threads) (place : Nat) (slots : Slots) : Threads :=
  threads.follow program content position [(place, slots)] (2 * program.size + 2)

/-- Let a thread read the byte at a position, if it can: the threads that it turns into come after
those that more preferred ones have turned into. -/
def Thread.advance (program : Program) (content : Array UInt8) (position : Nat)
    (thread : Thread) (after : Threads) : Threads :=
  let enter (next : Nat) := after.enter program content (position + 1) next thread.slots
  match thread.delay with
  | 1 => enter thread.place
  | delay + 2 => { after with list := after.list.push { thread with delay := delay + 1 } }
  | 0 =>
    match program[thread.place]? with
    | some (.exactly value next) => if content[position]? = some value then enter next else after
    | some (.byte set next) =>
      if (content[position]?).any fun b => set.contains b.toNat then enter next else after
    | some (.scalar set next) =>
      match Utf8.scalarAt? content position with
      | some (c, length) =>
        if set.contains c.toNat then
          if length = 1 then enter next
          else { after with list := after.list.push ⟨next, length - 1, thread.slots⟩ }
        else after
      | none => after
    | _ => after

/-- Let threads read the byte at a position.  A thread whose match ends there keeps the less
preferred ones from going on; its slots are the second part of the answer. -/
def advanceAll (program : Program) (content : Array UInt8) (position : Nat) (after : Threads) :
    List Thread → Threads × Option Slots
  | [] => (after, none)
  | thread :: threads =>
    if thread.delay = 0 ∧ program[thread.place]? = some .accept then (after, some thread.slots)
    else advanceAll program content position (thread.advance program content position after) threads

/-- The most preferred of the matches that start earliest, at a position after which `left` bytes
of the content remain or later.  `threads` have started before, and `found` is the best match that
they have had. -/
def searchFrom (program : Program) (entry slotCount : Nat) (content : Array UInt8) :
    (left position : Nat) → (threads : Threads) → (found : Option Slots) → Option Slots
  | 0, position, threads, found =>
    let threads := start position threads found
    (advanceAll program content position (.fresh program.size) threads.list.toList).2 <|> found
  | left + 1, position, threads, found =>
    let threads := start position threads found
    if threads.list.isEmpty && found.isSome then found
    else
      let (after, ended) :=
        advanceAll program content position (.fresh program.size) threads.list.toList
      searchFrom program entry slotCount content left (position + 1) after (ended <|> found)
where
  /-- Add the threads that start at a position; after a match, none do. -/
  start (position : Nat) (threads : Threads) (found : Option Slots) : Threads :=
    if found.isNone then
      threads.enter program content position entry (Array.replicate slotCount none)
    else threads

/-- The first match of a program at or after a position, as the positions it noted. -/
def Program.search (program : Program) (entry slotCount : Nat) (content : Array UInt8)
    (position : Nat) : Option Slots :=
  if position ≤ content.size then
    searchFrom program entry slotCount content (content.size - position) position
      (.fresh program.size) none
  else none

end Emend.Pattern
