/-
# The texts of scalars

A scalar is plain, quoted or a block.  In plain and quoted scalars the lines are joined: a single
line break between words becomes a space, and of several the first is dropped.  In block scalars the
indentation decides where the scalar ends and, unless they are folded, lines stay as they are.
-/

import Emend.Yaml.Cursor

namespace Emend.Yaml

open Number

/-- How a scalar is written. -/
inductive Style where
  | plain
  | singleQuoted
  | doubleQuoted
  | literal
  | folded
  deriving Repr, DecidableEq

/-- A scalar that has been read. -/
structure ScalarText where
  text : List Char
  /-- Where the text after the scalar starts. -/
  stop : Mark
  /-- Where reading goes on: white space after a plain scalar has been read too. -/
  cursor : Cursor
  /-- Whether a line break came after the scalar. -/
  lineEnded : Bool := false

/-! ## White space between words -/

/-- White space between two words of a scalar. -/
structure Gap where
  /-- Blanks, as long as there was no line break; the last one first. -/
  blanks : List Char := []
  /-- Whether there was a line break. -/
  broken : Bool := false
  /-- What the first line break stands for; none if it was escaped. -/
  firstBreak : Option Char := none
  /-- What the line breaks after the first stand for; the last one first. -/
  moreBreaks : List Char := []

namespace Gap

/-- Whether there was any white space. -/
def isEmpty (gap : Gap) : Bool := !gap.broken && gap.blanks.isEmpty

/-- The gap with one more blank; blanks in later lines do not count. -/
def addBlank (gap : Gap) (c : Char) : Gap :=
  if gap.broken then gap else { gap with blanks := c :: gap.blanks }

/-- The gap with one more line break. -/
def addBreak (gap : Gap) (c : Char) : Gap :=
  if gap.broken then { gap with moreBreaks := breakText c :: gap.moreBreaks }
  else { broken := true, firstBreak := some (breakText c) }

/-- The gap after an escaped line break. -/
def escapedBreak : Gap := { broken := true }

/-- What a gap adds to the text, the last character first. -/
def reversedText (gap : Gap) : List Char :=
  if gap.broken then
    match gap.firstBreak with
    | some '\n' => if gap.moreBreaks.isEmpty then [' '] else gap.moreBreaks
    | some c => gap.moreBreaks ++ [c]
    | none => gap.moreBreaks
  else gap.blanks

end Gap

/-! ## Quoted scalars -/

/-- The character that a letter after a backslash stands for. -/
def shortEscape? : Char → Option Char
  | '0' => some '\x00'
  | 'a' => some '\x07'
  | 'b' => some '\x08'
  | 't' => some '\t'
  | '\t' => some '\t'
  | 'n' => some '\n'
  | 'v' => some '\x0b'
  | 'f' => some '\x0c'
  | 'r' => some '\r'
  | 'e' => some '\x1b'
  | ' ' => some ' '
  | '"' => some '"'
  | '/' => some '/'
  | '\\' => some '\\'
  | 'N' => some '\u0085'
  | '_' => some '\u00a0'
  | 'L' => some '\u2028'
  | 'P' => some '\u2029'
  | _ => none

/-- The number of hexadecimal digits that follow a letter after a backslash. -/
def escapeDigits? : Char → Option Nat
  | 'x' => some 2
  | 'u' => some 4
  | 'U' => some 8
  | _ => none

/-- The value of hexadecimal digits, on top of `value`. -/
def hexValue? (value : Nat) : List Char → Option Nat
  | [] => some value
  | c :: rest =>
    match hexDigit? c with
    | some digit => hexValue? (value * 16 + digit) rest
    | none => none

/-- The character of an escape by number: `count` hexadecimal digits that stand at `mark`. -/
def numberedEscape (start mark : Mark) (count : Nat) (rest : List Char) : Except Fault Char :=
  let fault (problem : Problem) : Fault :=
    { problem, mark, activity := some (.parsingQuotedScalar, start) }
  let digits := rest.take count
  match hexValue? 0 digits with
  | some value =>
    if digits.length < count then .error (fault .expectedHexNumber)
    else if (0xD800 ≤ value && value ≤ 0xDFFF) || 0x10FFFF < value then
      .error (fault .escapeNotScalarValue)
    else .ok (Char.ofNat value)
  | none => .error (fault .expectedHexNumber)

/-- Read a quoted scalar on.  The quote that ends it is `quote`; `text` is what it says so far, the
last character first, and `gap` the white space since.  The next `passed` characters have been dealt
with already. -/
def quotedFrom (cut? : Option Fault) (quote : Char) (start : Mark) (text : List Char) (gap : Gap)
    (passed : Nat) (mark : Mark) : List Char → Except Fault ScalarText
  | [] =>
    match cut? with
    | some fault => .error fault
    | none =>
      .error { problem := .endOfStream, mark, activity := some (.scanningQuotedScalar, start) }
  | c :: rest =>
    let after := mark.after c rest
    match passed with
    | more + 1 => quotedFrom cut? quote start text gap more after rest
    | 0 =>
      if isBlank c then
        quotedFrom cut? quote start text (gap.addBlank c) 0 after rest
      else if c = '\r' && rest.head? = some '\n' then
        quotedFrom cut? quote start text gap 0 after rest
      else if isBreak c then do
        demand cut? (c :: rest) 2
        quotedFrom cut? quote start text (gap.addBreak c) 0 after rest
      else do
        demand cut? (c :: rest) (if mark.column = 0 then 4 else 2)
        if mark.column = 0 && startsDocumentIndicator (c :: rest) then
          throw { problem := .documentIndicator, mark,
                  activity := some (.scanningQuotedScalar, start) }
        let text := gap.reversedText ++ text
        if c = quote then
          if quote = '\'' && rest.head? = some '\'' then
            quotedFrom cut? quote start ('\'' :: text) {} 1 after rest
          else
            return { text := text.reverse, stop := after
                     cursor := { rest, mark := after, cut? } }
        else if c = '\\' && quote = '"' then
          let letter := rest.headD endChar
          if isBreak letter then
            demand cut? (c :: rest) 3
            let passed := if letter = '\r' && rest[1]? = some '\n' then 2 else 1
            quotedFrom cut? quote start text .escapedBreak passed after rest
          else
            match shortEscape? letter with
            | some meant => quotedFrom cut? quote start (meant :: text) {} 1 after rest
            | none =>
              match escapeDigits? letter with
              | some count =>
                demand cut? rest.tail count
                let meant ← numberedEscape start (after.next letter) count rest.tail
                quotedFrom cut? quote start (meant :: text) {} (count + 1) after rest
              | none =>
                throw { problem := .unknownEscape, mark,
                        activity := some (.parsingQuotedScalar, start) }
        else quotedFrom cut? quote start (c :: text) {} 0 after rest

/-- Read a quoted scalar, which starts at the cursor with its quote. -/
def Cursor.quoted (cursor : Cursor) : Except Fault ScalarText :=
  let inside := cursor.skip
  quotedFrom cursor.cut? cursor.char cursor.mark [] {} 0 inside.mark inside.rest

/-! ## Plain scalars -/

/-- Whether a character has a meaning of its own inside brackets. -/
def isFlowIndicator (c : Char) : Bool :=
  c = ',' || c = '[' || c = ']' || c = '\x7b' || c = '\x7d'

/-- Read a plain scalar on.  Outside brackets (`inFlow` is false) it ends before a line that is
indented by fewer than `indent` columns.  `text` is what it says so far, the last character first,
`stop` where that ends, and `gap` the white space since. -/
def plainFrom (cut? : Option Fault) (inFlow : Bool) (indent : Int) (start : Mark)
    (text : List Char) (stop : Mark) (gap : Gap) (mark : Mark) :
    List Char → Except Fault ScalarText
  | [] =>
    match cut? with
    | some fault => .error fault
    | none =>
      .ok { text := text.reverse, stop, cursor := { rest := [], mark, cut? }
            lineEnded := gap.broken }
  | c :: rest =>
    let after := mark.after c rest
    let fault (problem : Problem) : Fault :=
      { problem, mark, activity := some (.scanningPlainScalar, start) }
    if isBlank c then
      if gap.broken && mark.column < indent && c = '\t' then .error (fault .tabBelowIndentation)
      else plainFrom cut? inFlow indent start text stop (gap.addBlank c) after rest
    else if c = '\r' && rest.head? = some '\n' then
      plainFrom cut? inFlow indent start text stop gap after rest
    else if isBreak c then do
      demand cut? (c :: rest) 2
      plainFrom cut? inFlow indent start text stop (gap.addBreak c) after rest
    else do
      let beginsWord := text.isEmpty || !gap.isEmpty
      demand cut? (c :: rest) (if beginsWord then 4 else 2)
      let ended : ScalarText :=
        { text := text.reverse, stop, cursor := { rest := c :: rest, mark, cut? }
          lineEnded := gap.broken }
      let follower := rest.headD endChar
      if beginsWord && (c = '#' || (!inFlow && !gap.isEmpty && mark.column < indent)
          || (mark.column = 0 && startsDocumentIndicator (c :: rest))) then
        return ended
      else if inFlow && c = ':' && (isFlowIndicator follower || follower = '?') then
        throw (fault .unexpectedColon)
      else if (c = ':' && isBlankOrEnd follower) || (inFlow && isFlowIndicator c) then
        return ended
      else
        plainFrom cut? inFlow indent start (c :: (gap.reversedText ++ text)) after {} after rest

/-- Read a plain scalar. -/
def Cursor.plain (cursor : Cursor) (inFlow : Bool) (indent : Int) : Except Fault ScalarText :=
  plainFrom cursor.cut? inFlow indent cursor.mark [] cursor.mark {} cursor.mark cursor.rest

/-! ## Block scalars -/

/-- What becomes of the line breaks at the end of a block scalar. -/
inductive Chomping where
  /-- They are dropped. -/
  | strip
  /-- The first is kept. -/
  | clip
  /-- All are kept. -/
  | keep
  deriving Repr, DecidableEq

/-- What the first line of a block scalar says. -/
structure BlockHeader where
  chomping : Chomping := .clip
  /-- The columns by which the text is indented more than what is around it, if they are given. -/
  increment : Option Nat := none

/-- The state of reading a block scalar. -/
structure BlockState where
  /-- The text so far, the last character first. -/
  text : List Char := []
  /-- Whether a line is being read, as opposed to the white space before one. -/
  inLine : Bool := false
  /-- The break after the line last read. -/
  lineBreak : Option Char := none
  /-- The breaks of the empty lines since, the last one first. -/
  emptyBreaks : List Char := []
  /-- Whether the line last begun starts with a blank. -/
  blankFirst : Bool := false
  /-- The columns by which the text is indented, once they are known. -/
  indent : Option Nat := none
  /-- The greatest indentation among the empty lines. -/
  greatest : Nat := 0
  /-- Where the last line that belongs to the scalar ends. -/
  stop : Mark

namespace BlockState

/-- Whether a column lies before the text of the scalar, as far as that is known. -/
def isBefore (state : BlockState) (column : Nat) : Bool :=
  match state.indent with
  | none => true
  | some indent => column < indent

/-- The state after a line break at the end of a line or in an empty one. -/
def endLine (state : BlockState) (c : Char) (after : Mark) : BlockState :=
  if state.inLine then
    { state with
      inLine := false, lineBreak := some (breakText c), emptyBreaks := [], stop := after }
  else { state with emptyBreaks := breakText c :: state.emptyBreaks, stop := after }

/-- The state at the first character of a line.  Where lines are folded, the break between two lines
of which neither starts with a blank becomes a space, or nothing if empty lines follow it. -/
def beginLine (state : BlockState) (folded : Bool) (c : Char) : BlockState :=
  let blank := isBlank c
  let joint : List Char :=
    match state.lineBreak with
    | none => []
    | some lineBreak =>
      if folded && lineBreak = '\n' && !state.blankFirst && !blank then
        if state.emptyBreaks.isEmpty then [' '] else []
      else [lineBreak]
  { state with
    text := c :: (state.emptyBreaks ++ joint ++ state.text)
    inLine := true, lineBreak := none, emptyBreaks := [], blankFirst := blank }

/-- The whole text. -/
def finish (state : BlockState) (chomping : Chomping) : List Char :=
  let ends : List Char :=
    match chomping with
    | .strip => []
    | .clip => state.lineBreak.toList
    | .keep => state.emptyBreaks ++ state.lineBreak.toList
  (ends ++ state.text).reverse

end BlockState

/-- Read a block scalar on.  What is around it is indented by `outer` columns. -/
def blockFrom (cut? : Option Fault) (folded : Bool) (chomping : Chomping) (outer : Int)
    (start : Mark) (state : BlockState) (mark : Mark) : List Char → Except Fault ScalarText
  | [] =>
    match cut? with
    | some fault => .error fault
    | none =>
      .ok { text := state.finish chomping, stop := if state.inLine then mark else state.stop
            cursor := { rest := [], mark, cut? } }
  | c :: rest =>
    let after := mark.after c rest
    if c = '\r' && rest.head? = some '\n' then
      blockFrom cut? folded chomping outer start state after rest
    else if state.inLine then do
      if isBreak c then
        demand cut? (c :: rest) 2
        blockFrom cut? folded chomping outer start (state.endLine c after) after rest
      else
        blockFrom cut? folded chomping outer start { state with text := c :: state.text } after rest
    else if c = ' ' && state.isBefore mark.column then
      blockFrom cut? folded chomping outer start state after rest
    else do
      let greatest := max state.greatest mark.column
      if c = '\t' && state.isBefore mark.column then
        throw { problem := .tabForIndentation, mark
                activity := some (.scanningBlockScalar, start) }
      if isBreak c then
        demand cut? (c :: rest) 2
        let state := { state with greatest }
        blockFrom cut? folded chomping outer start (state.endLine c after) after rest
      else
        let indent := state.indent.getD (max greatest (max (outer + 1).toNat 1))
        let state := { state with indent := some indent }
        if mark.column = indent then
          blockFrom cut? folded chomping outer start (state.beginLine folded c) after rest
        else
          return { text := state.finish chomping, stop := state.stop
                   cursor := { rest := c :: rest, mark, cut? } }

/-- Read a sign that says what becomes of line breaks at the end, if there is one. -/
def Cursor.chomping (cursor : Cursor) : Except Fault (Option Chomping × Cursor) :=
  if cursor.char = '+' then return (some .keep, cursor.skip)
  else if cursor.char = '-' then return (some .strip, cursor.skip)
  else return (none, cursor)

/-- Read a digit that says how far the text is indented, if there is one. -/
def Cursor.increment (cursor : Cursor) (start : Mark) : Except Fault (Option Nat × Cursor) :=
  if cursor.char = '0' then throw (cursor.fault .indentationZero .scanningBlockScalar start)
  else if cursor.char.isDigit then
    return (some (cursor.char.toNat - '0'.toNat), cursor.skip)
  else return (none, cursor)

/-- Read the signs after the first character of a block scalar, in either order. -/
def Cursor.blockHeader (cursor : Cursor) (start : Mark) : Except Fault (BlockHeader × Cursor) := do
  cursor.need 1
  let (chomping, cursor) ← cursor.chomping
  cursor.need 1
  let (increment, cursor) ← cursor.increment start
  cursor.need 1
  match chomping, increment with
  | none, some _ =>
    let (chomping, cursor) ← cursor.chomping
    return ({ chomping := chomping.getD .clip, increment }, cursor)
  | _, _ => return ({ chomping := chomping.getD .clip, increment }, cursor)

/-- Read a block scalar.  What is around it is indented by `outer` columns. -/
def Cursor.block (cursor : Cursor) (folded : Bool) (outer : Int) : Except Fault ScalarText := do
  let start := cursor.mark
  let (header, cursor) ← cursor.skip.blockHeader start
  cursor.need 1
  let cursor ← cursor.skipWhile isBlank
  let cursor ← cursor.skipComment
  if !isBreakOrEnd cursor.char then
    throw (cursor.fault .expectedCommentOrBreak .scanningBlockScalar start)
  if isBreak cursor.char then cursor.need 2
  let cursor := if isBreak cursor.char then cursor.skipBreak else cursor
  let indent := header.increment.map fun increment => (max outer 0).toNat + increment
  blockFrom cursor.cut? folded header.chomping outer start { indent, stop := cursor.mark }
    cursor.mark cursor.rest

end Emend.Yaml
