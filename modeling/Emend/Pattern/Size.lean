/-
# The size of a pattern

A pattern is refused when the automaton that reads it byte by byte, forwards or backwards, would
take more memory than a limit.  `Expr.layOut` computes what the automaton would take, without
building it: a part that is repeated is laid out as often as it is repeated.
-/

import Emend.Pattern.Choice
import Emend.Pattern.Layout

namespace Emend.Pattern

open Unicode

namespace Expr

/-- The words of a choice, if it is one between words only. -/
def words? : Expr → Option (List Bytes)
  | alt (literal first) (literal second) => some [first, second]
  | alt (literal first) rest => rest.words?.map (first :: ·)
  | _ => none

/-- Whether the expression takes the same memory wherever it is laid out: only sets of scalars may
share more of their states in one place than in another. -/
def isUniform : Expr → Bool
  | scalar set => isAsciiSet set
  | seq first second => first.isUniform && second.isUniform
  | alt first second => first.isUniform && second.isUniform
  | rep _ _ _ part => part.isUniform
  | capture _ part => part.isUniform
  | _ => true

/-- Lay out a piece a number of times, given whether it takes the same each time. -/
def layOutTimes (isUniform : Bool) (piece : Layout → Option Layout) (count : Nat)
    (layout : Layout) : Option Layout :=
  if isUniform then layout.addCopies piece count else layout.addTimes piece count

/-- Lay out what belongs to a branch of a choice after its states, given the number of branches
before it; none if the branch is no part of a choice.  With the second branch there is something to
choose from. -/
def layOutBranchEnd (before : Nat) (layout : Layout) : Option Layout :=
  match before with
  | 0 => some layout
  | 1 => layout.add 2 (2 * wayOutSize)
  | _ => layout.add 0 wayOutSize

/-- Lay out the states of an expression that reads forwards or backwards.  Where the expression is
what remains of a choice, `before` is the number of branches before it. -/
def layOut (forwards : Bool) (before : Nat) : Expr → Layout → Option Layout
  | empty, layout => do layOutBranchEnd before (← layout.add 1 0)
  | literal bytes, layout => do layOutBranchEnd before (← layout.add bytes.length 0)
  | scalar set, layout => do
    layOutBranchEnd before
      (← if isAsciiSet set then layout.addFlatSet set else layout.addScalarSet forwards set)
  | byte set, layout => do layOutBranchEnd before (← layout.addFlatSet set)
  | look _, layout => do layOutBranchEnd before (← layout.add 1 0)
  | seq first second, layout => do
    let layout ←
      if forwards then second.layOut forwards 0 (← first.layOut forwards 0 layout)
      else first.layOut forwards 0 (← second.layOut forwards 0 layout)
    layOutBranchEnd before layout
  | alt first rest, layout => do
    match if before = 0 then (alt first rest).words? else none with
    | some words => layout.addWords forwards words
    | none =>
      let layout ← layOutBranchEnd before (← first.layOut forwards 0 layout)
      rest.layOut forwards (before + 1) layout
  | rep least none _ part, layout => do
    let layout ←
      if least ≠ 0 then do
        let piece := part.layOut forwards 0
        (← layOutTimes part.isUniform piece least layout).add 1 (2 * wayOutSize)
      else if part.isSolid then do
        part.layOut forwards 0 (← layout.add 1 (2 * wayOutSize))
      else (← part.layOut forwards 0 layout).add 3 (4 * wayOutSize)
    layOutBranchEnd before layout
  | rep least (some most) _ part, layout => do
    let piece := part.layOut forwards 0
    let choice (layout : Layout) : Option Layout := do
      piece (← layout.add 1 (2 * wayOutSize))
    let layout ←
      if least = 0 && most = 1 then do (← choice layout).add 1 0
      else do
        let layout ←
          if least = 0 then layout.add 1 0 else layOutTimes part.isUniform piece least layout
        if least = most then pure layout
        else layOutTimes part.isUniform choice (most - least) (← layout.add 1 0)
    layOutBranchEnd before layout
  | capture _ part, layout => do
    let layout ←
      if forwards then do (← part.layOut forwards 0 (← layout.add 1 0)).add 1 0
      else part.layOut forwards 0 layout
    layOutBranchEnd before layout

/-- Whether the expression can only match at the start of a content. -/
def startsText : Expr → Bool
  | look .textStart => true
  | seq first second => first.startsText || (first.isHollow && second.startsText)
  | alt first second => first.startsText && second.startsText
  | rep least _ _ part => least ≠ 0 && part.startsText
  | capture _ part => part.startsText
  | _ => false

/-- Whether the expression can only match at the end of a content. -/
def endsText : Expr → Bool
  | look .textEnd => true
  | seq first second => second.endsText || (second.isHollow && first.endsText)
  | alt first second => first.endsText && second.endsText
  | rep least _ _ part => least ≠ 0 && part.endsText
  | capture _ part => part.endsText
  | _ => false

/-- Lay out the whole automaton in one direction: before the expression, whatever comes before a
match is passed over; after it stands the end of a match. -/
def automaton? (forwards : Bool) (expr : Expr) : Option Layout := do
  let anchored := if forwards then expr.startsText else expr.endsText
  let layout ←
    if anchored then Layout.add {} 1 0 else Layout.add {} 3 (2 * wayOutSize + rangeSize)
  (← (capture 0 expr).layOut forwards 0 layout).add 1 0

/-- From this number of words on, a choice between words is searched for without an automaton. -/
def longWordList : Nat := 3000

/-- Whether the expression is a long choice between words. -/
def isLongWordList (expr : Expr) : Bool :=
  expr.words?.any fun words => longWordList ≤ words.length

/-- Whether the automaton of the expression, if it needs one, keeps within the limit in both
directions. -/
def fits (expr : Expr) : Bool :=
  expr.isLongWordList || ((expr.automaton? true).isSome && (expr.automaton? false).isSome)

end Expr

end Emend.Pattern
