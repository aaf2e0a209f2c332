/-
# Laying out an automaton

A `Layout` is what has been laid out of the automaton that reads a pattern byte by byte: how many
states there are and how much memory they take, which has a limit.  Each function of this module
adds the states of one piece, in the order of their numbers.

A set of scalars is read as sequences of byte ranges.  Forwards, sequences share what they have in
common at their ends; backwards, what they have in common at their starts.  What can be shared is
looked up in a table in which a newer state may take the place of an older one; that is laid out
anew when it is needed again.  Words to choose from share what they start with, and backwards what
they end with.
-/

import Std.Data.HashMap
import Emend.Text.Bytes
import Emend.Pattern.ByteRanges

namespace Emend.Pattern

open Unicode

/-- The most memory, in bytes, that the automaton of a pattern may take. -/
def sizeLimit : Nat := 10485760

/-- The memory of a state. -/
def stateSize : Nat := 32

/-- The memory of a choice of a byte range in a state. -/
def rangeSize : Nat := 8

/-- The memory of a way out of a state with several. -/
def wayOutSize : Nat := 4

/-- The part of an automaton that has been laid out. -/
structure Layout where
  /-- The number of states, which is also the number of the next one. -/
  states : Nat := 0
  /-- The memory that they take. -/
  memory : Nat := 0
  deriving Repr, DecidableEq

namespace Layout

/-- The layout with a number of states more, and with a number of bytes for what they hold; `none`
if that is too large. -/
def add (layout : Layout) (count extra : Nat) : Option Layout :=
  let memory := layout.memory + stateSize * count + extra
  if memory ≤ sizeLimit then some { states := layout.states + count, memory } else none

/-- The layout with a piece a number of times over. -/
def addTimes (piece : Layout → Option Layout) (layout : Layout) : Nat → Option Layout
  | 0 => some layout
  | count + 1 =>
    match piece layout with
    | some layout => addTimes piece layout count
    | none => none

/-- The layout with a piece a number of times over, where each time takes as much as the first. -/
def addCopies (piece : Layout → Option Layout) (layout : Layout) : Nat → Option Layout
  | 0 => some layout
  | more + 1 => do
    let once ← piece layout
    let states := once.states - layout.states
    let memory := once.memory - layout.memory
    once.add (more * states) (more * (memory - stateSize * states))

/-- The layout with the states that read one of a set of ASCII characters or bytes. -/
def addFlatSet (layout : Layout) (set : Ranges) : Option Layout :=
  layout.add 2 (rangeSize * set.toList.length)

/-! ## Sets of scalars -/

/-- The states that are known for some keys, by the slots of these keys. -/
abbrev Table := Std.HashMap Nat (List Nat × Nat)

/-- The slot of a key, of as many slots as given. -/
def slot (slots : Nat) (key : List Nat) : Nat :=
  let mixed := key.foldl (fun mixed n => (mixed ^^^ UInt64.ofNat n) * 1099511628211)
    14695981039346656037
  mixed.toNat % slots

/-- The number of the state with a key: a known one, or a new one that holds a number of bytes and
takes the slot of the key. -/
def share (slots : Nat) (key : List Nat) (extra : Nat) (layout : Layout) (table : Table) :
    Option (Nat × Layout × Table) :=
  let slot := slot slots key
  let fresh : Option (Nat × Layout × Table) := do
    return (layout.states, ← layout.add 1 extra, table.insert slot (key, layout.states))
  match table[slot]? with
  | some (known, state) => if known = key then some (state, layout, table) else fresh
  | none => fresh

/-- The number of slots for states that read forwards. -/
def forwardSlots : Nat := 10000

/-- The number of slots for states that read backwards. -/
def backwardSlots : Nat := 1000

/-- The groups of sequences that start with the same range: that range, and what follows it. -/
def byFirstRange (sequences : List ByteRanges) : List ((Nat × Nat) × List ByteRanges) :=
  (sequences.splitBy fun a b => a.head? == b.head?).filterMap fun group =>
    group.head?.bind fun first =>
      first.head?.map fun range => (range, (group.map (·.drop 1)).filter (!·.isEmpty))

/-- The number of the state that reads the given sequences, of at most `longest` ranges each, and
goes on to `target`. -/
def addForwards (target : Nat) (sequences : List ByteRanges) (layout : Layout) (table : Table) :
    (longest : Nat) → Option (Nat × Layout × Table)
  | 0 => some (target, layout, table)
  | longest + 1 => do
    if sequences.isEmpty then return (target, layout, table)
    let (key, layout, table) ← (byFirstRange sequences).foldlM (fun (key, layout, table) group => do
      let (state, layout, table) ← addForwards target group.2 layout table longest
      return (state :: group.1.2 :: group.1.1 :: key, layout, table)) ([], layout, table)
    share forwardSlots key.reverse (rangeSize * (key.length / 3)) layout table

/-- The layout with the states that read a sequence backwards, each range going on where the one
before it went: `onward` for the first. -/
def addBackwards (onward : Nat) (layout : Layout) (table : Table) :
    ByteRanges → Option (Layout × Table)
  | [] => some (layout, table)
  | (first, last) :: ranges => do
    let (state, layout, table) ← share backwardSlots [onward, first, last] 0 layout table
    addBackwards state layout table ranges

/-- The layout with the states that read a set of scalars. -/
def addScalarSet (forwards : Bool) (layout : Layout) (set : Ranges) : Option Layout := do
  let sequences := byteRanges set
  if forwards then
    let target := layout.states
    let (_, layout, _) ← addForwards target sequences (← layout.add 1 0) ∅ 5
    return layout
  else
    let onward := layout.states + 1
    let layout ← layout.add 2 (wayOutSize * sequences.length)
    let (layout, _) ← sequences.foldlM (fun (layout, table) ranges =>
      addBackwards onward layout table ranges) (layout, ∅)
    return layout

/-! ## Words to choose from -/

/-- What is left of some words where several ways meet: the ends of words up to and after each word
that is complete there, which is preferred to those after it. -/
structure Fork where
  /-- The ends between complete words, the last stretch first. -/
  stretches : List (List Bytes) := [[]]
  /-- The number of complete words that count: one after nothing but complete words does not. -/
  complete : Nat := 0

/-- The fork with one more end of a word. -/
def Fork.add (fork : Fork) (ending : Bytes) : Fork :=
  match fork.stretches with
  | [] => fork
  | stretch :: before =>
    if !ending.isEmpty then { fork with stretches := (ending :: stretch) :: before }
    else if fork.complete ≠ 0 && fork.stretches.all List.isEmpty then fork
    else { stretches := [] :: fork.stretches, complete := fork.complete + 1 }

/-- The ends of some words after each of the different bytes that they start with. -/
def endsByStart (words : List Bytes) : List (List Bytes) :=
  (words.filterMap List.head?).eraseDups.map fun start =>
    words.filterMap fun word => if word.head? = some start then some (word.drop 1) else none

/-- The layout with the states that read the ends of some words, of which each has at most `longest`
bytes. -/
def addFork (words : List Bytes) (layout : Layout) : (longest : Nat) → Option Layout
  | 0 => some layout
  | longest + 1 => do
    let fork := words.foldl Fork.add {}
    let stretches := (fork.stretches.filter (!·.isEmpty)).map fun stretch =>
      endsByStart stretch.reverse
    let layout ← stretches.foldlM (fun (layout : Layout) starts =>
      layout.add 1 (if starts.length = 1 then 0 else rangeSize * starts.length)) layout
    let layout ← layout.add 1 (wayOutSize * (stretches.length + fork.complete))
    let further := stretches.flatten.filter fun ends => ends.any (!·.isEmpty)
    further.foldlM (fun layout ends => addFork ends layout longest) layout

/-- The layout with the states of a choice between words. -/
def addWords (forwards : Bool) (layout : Layout) (words : List Bytes) : Option Layout := do
  let words := if forwards then words else words.map List.reverse
  addFork words (← layout.add 1 0) ((words.map List.length).foldl max 0)

end Layout

end Emend.Pattern
