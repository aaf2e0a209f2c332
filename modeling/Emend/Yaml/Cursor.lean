/-
# Reading characters one by one

A cursor stands between two characters of a document.  Looking ahead of it can fail: when the bytes
further on are faulty, the fault shows as soon as a character from there is asked for.
-/

import Emend.Number.Reading
import Emend.Yaml.Source

namespace Emend.Yaml

/-! ## Kinds of characters -/

/-- Whether a character is a space or a tab. -/
def isBlank (c : Char) : Bool := c = ' ' || c = '\t'

/-- Whether a character breaks a line. -/
def isBreak (c : Char) : Bool :=
  c = '\n' || c = '\r' || c = '\u0085' || c = '\u2028' || c = '\u2029'

/-- The character that stands for the end of a document; no document holds it. -/
def endChar : Char := '\x00'

/-- Whether a line ends at a character. -/
def isBreakOrEnd (c : Char) : Bool := isBreak c || c = endChar

/-- Whether a word ends at a character. -/
def isBlankOrEnd (c : Char) : Bool := isBlank c || isBreakOrEnd c

/-- Whether a character may stand in a name. -/
def isNameChar (c : Char) : Bool := c.isAlphanum || c = '-' || c = '_'

/-- What a line break adds to a text: a line feed, or the break itself if it has a meaning of its
own. -/
def breakText (c : Char) : Char := if c = '\u2028' || c = '\u2029' then c else '\n'

/-- The place after a character, given what comes next: a carriage return before a line feed is a
part of that break. -/
def Mark.after (mark : Mark) (c : Char) (rest : List Char) : Mark :=
  if c = '\r' && rest.head? = some '\n' then { mark with index := mark.index + 1 }
  else if isBreak c then mark.nextLine c
  else mark.next c

/-- Whether a line starts with one of the marks that separate documents. -/
def startsDocumentIndicator (rest : List Char) : Bool :=
  match rest with
  | a :: b :: c :: after =>
    (a = '-' && b = '-' && c = '-' || a = '.' && b = '.' && c = '.')
      && isBlankOrEnd (after.headD endChar)
  | _ => false

/-! ## Cursors -/

/-- A place in a document with the characters from there on. -/
structure Cursor where
  rest : List Char
  mark : Mark := {}
  /-- What is wrong with the bytes after the last character, if anything. -/
  cut? : Option Fault := none
  deriving Repr, DecidableEq

/-- Ask for `count` characters of `rest`.  At the end of a document any number can be asked for, at
a fault only as many as there are. -/
def demand (cut? : Option Fault) (rest : List Char) (count : Nat) : Except Fault Unit :=
  match cut? with
  | some fault => if (rest.drop (count - 1)).isEmpty then .error fault else .ok ()
  | none => .ok ()

namespace Cursor

/-- The cursor at the beginning of a document. -/
def start (source : Source) : Cursor := { rest := source.chars, cut? := source.cut? }

/-- Ask for characters. -/
def need (cursor : Cursor) (count : Nat) : Except Fault Unit :=
  demand cursor.cut? cursor.rest count

/-- The character at a distance. -/
def peek (cursor : Cursor) (distance : Nat) : Char := cursor.rest.getD distance endChar

/-- The character at the cursor. -/
def char (cursor : Cursor) : Char := cursor.rest.headD endChar

/-- The cursor after a character that is no line break. -/
def skip (cursor : Cursor) : Cursor :=
  { cursor with rest := cursor.rest.tail, mark := cursor.mark.next cursor.char }

/-- The cursor after a line break. -/
def skipBreak (cursor : Cursor) : Cursor :=
  match cursor.rest with
  | '\r' :: '\n' :: rest =>
    { cursor with rest, mark := (cursor.mark.next '\r').nextLine '\n' }
  | c :: rest => { cursor with rest, mark := cursor.mark.nextLine c }
  | [] => cursor

/-- The longest run of characters of a kind, which line breaks are not of, and the cursor after
it. -/
def span (cursor : Cursor) (isKind : Char → Bool) : Except Fault (List Char × Cursor) := do
  let run := cursor.rest.takeWhile isKind
  let after : Cursor :=
    { cursor with rest := cursor.rest.dropWhile isKind, mark := cursor.mark.nextAll run }
  after.need 1
  return (run, after)

/-- The cursor after a run of characters of a kind. -/
def skipWhile (cursor : Cursor) (isKind : Char → Bool) : Except Fault Cursor := do
  return (← cursor.span isKind).2

/-- The cursor after a comment, if there is one. -/
def skipComment (cursor : Cursor) : Except Fault Cursor :=
  if cursor.char = '#' then cursor.skipWhile fun c => !isBreakOrEnd c else .ok cursor

/-- A fault at the cursor. -/
def fault (cursor : Cursor) (problem : Problem) (activity : Activity) (start : Mark) : Fault :=
  { problem, mark := cursor.mark, activity := some (activity, start) }

end Cursor

end Emend.Yaml
