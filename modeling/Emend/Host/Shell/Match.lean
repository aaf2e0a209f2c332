/-
# Matching texts

The patterns by which a script chooses among texts: a star stands for any bytes, a question mark for
one, and brackets for one of a set.  What is quoted stands for itself.
-/

import Emend.Host.Filter.Exchange

namespace Emend.Host.Shell

/-- A byte of a word, and whether it is quoted. -/
abbrev Cell := UInt8 × Bool

/-- A part of a pattern. -/
inductive Wildcard where
  | byte (b : UInt8)
  | one
  | any
  /-- A byte of a set, or one that is not in it. -/
  | set (negated : Bool) (members : Bytes)
  deriving Repr, DecidableEq

namespace Wildcard

/-- The members of a set between brackets, and the number of cells that it takes, with its closing
bracket; `none` if there is no such bracket. -/
def members (isFirst : Bool) (passed : Nat) : List Cell → Option (Bytes × Nat)
  | [] => none
  | (b, quoted) :: rest =>
    match passed with
    | more + 1 => (members false more rest).map fun (others, size) => (others, size + 1)
    | 0 =>
      if b = 0x5D && !quoted && !isFirst then some ([], 1)
      else
        let inner := (rest.drop 1).takeWhile (·.1 ≠ 0x3A)
        let kind? : Option Bytes :=
          if b = 0x5B && rest.head? = some (0x3A, false)
              && ((rest.drop (inner.length + 1)).take 2).map Prod.fst = [0x3A, 0x5D] then
            Filter.kind? (inner.map Prod.fst)
          else none
        let (found, more) : Bytes × Nat :=
          match kind?, rest with
          | some kind, _ => (kind, inner.length + 3)
          | none, (0x2D, false) :: (last, lastQuoted) :: _ =>
            if last = 0x5D && !lastQuoted then ([b], 0) else (Filter.interval b last, 2)
          | none, _ => ([b], 0)
        (members false more rest).map fun (others, size) => (found ++ others, size + 1)

/-- The parts of a pattern, the next `passed` cells having been dealt with. -/
def parse (passed : Nat) : List Cell → List Wildcard
  | [] => []
  | (b, quoted) :: rest =>
    match passed with
    | more + 1 => parse more rest
    | 0 =>
      if quoted then byte b :: parse 0 rest
      else
        match b with
        | 0x2A => any :: parse 0 rest
        | 0x3F => one :: parse 0 rest
        | 0x5B =>
          let negated := rest.head? = some (0x21, false) || rest.head? = some (0x5E, false)
          let before := if negated then 1 else 0
          match members true 0 (rest.drop before) with
          | some (found, size) => set negated found :: parse (before + size) rest
          | none => byte b :: parse 0 rest
        | 0x5C =>
          match rest with
          | (next, _) :: _ => byte next :: parse 1 rest
          | [] => [byte b]
        | _ => byte b :: parse 0 rest

/-- Whether a text matches all parts of a pattern. -/
def accepts : List Wildcard → Bytes → Bool
  | [], text => text.isEmpty
  | any :: rest, text => (List.range (text.length + 1)).any fun n => accepts rest (text.drop n)
  | byte b :: rest, text =>
    match text with
    | c :: more => c = b && accepts rest more
    | [] => false
  | one :: rest, text =>
    match text with
    | _ :: more => accepts rest more
    | [] => false
  | set negated members :: rest, text =>
    match text with
    | c :: more => members.contains c != negated && accepts rest more
    | [] => false

end Wildcard

/-- Whether a text matches a pattern. -/
def matchesPattern (pattern : List Cell) (text : Bytes) : Bool :=
  Wildcard.accepts (Wildcard.parse 0 pattern) text

/-- A text without what matches a pattern at its beginning or at its end, the shortest or the
longest such part. -/
def withoutMatch (atEnd longest : Bool) (pattern : List Cell) (text : Bytes) : Bytes :=
  let parts := Wildcard.parse 0 pattern
  let lengths := List.range (text.length + 1)
  let candidates := if longest then lengths.reverse else lengths
  let found? := candidates.find? fun length =>
    Wildcard.accepts parts (if atEnd then text.drop (text.length - length) else text.take length)
  match found? with
  | some length => if atEnd then text.take (text.length - length) else text.drop length
  | none => text

end Emend.Host.Shell
