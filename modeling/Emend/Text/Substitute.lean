/-
# Literal substitution

`pieces literal content` cuts a content at the leftmost, non-overlapping occurrences of a literal.
Putting the pieces back together with the literal gives the content; putting them together with
another text is the substitution.
-/

import Emend.Text.Bytes

namespace Emend.Substitute

/-- The pieces of a content around the occurrences of `literal`.  The first `skip` bytes belong to
the occurrence last found; `piece` is the piece under way and `done` the earlier ones, all in
reverse. -/
def piecesFrom (literal : Bytes) (skip : Nat) (piece : Bytes) (done : List Bytes) :
    Bytes → List Bytes
  | [] => (piece.reverse :: done).reverse
  | b :: rest =>
    match skip with
    | more + 1 => piecesFrom literal more piece done rest
    | 0 =>
      if literal.isPrefixOf (b :: rest) then
        piecesFrom literal (literal.length - 1) [] (piece.reverse :: done) rest
      else piecesFrom literal 0 (b :: piece) done rest

/-- The stretches of `content` before, between and after the occurrences of a nonempty `literal`
that a scan from the left finds, each search starting where the last occurrence ended. -/
def pieces (literal content : Bytes) : List Bytes :=
  piecesFrom literal 0 [] [] content

/-- `content` with every occurrence found of a nonempty `literal` replaced, or `none` when there is
none. -/
def replace? (literal replacement content : Bytes) : Option Bytes :=
  match pieces literal content with
  | first :: second :: rest => some (replacement.intercalate (first :: second :: rest))
  | _ => none

end Emend.Substitute
