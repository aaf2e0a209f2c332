/-
# What is wrong with a pattern

A fault names the rule that a pattern breaks and where.  `Fault.report` shows the pattern with the
places underlined: in one line when the pattern has no line breaks, otherwise line by line with
numbers.
-/

namespace Emend.Pattern

/-- A place in a pattern. -/
structure Position where
  /-- The number of bytes before it. -/
  offset : Nat := 0
  /-- Its line, from one. -/
  line : Nat := 1
  /-- Its column, from one, counted in characters. -/
  column : Nat := 1
  deriving Repr, DecidableEq, Inhabited

/-- The position after a character. -/
def Position.after (p : Position) (c : Char) : Position :=
  if c = '\n' then ⟨p.offset + c.utf8Size, p.line + 1, 1⟩
  else ⟨p.offset + c.utf8Size, p.line, p.column + 1⟩

/-- A stretch of a pattern. -/
structure Span where
  /-- Where it starts. -/
  start : Position
  /-- Where the text after it starts. -/
  stop : Position
  deriving Repr, DecidableEq, Inhabited

/-- The empty stretch at a position. -/
def Span.at (p : Position) : Span := ⟨p, p⟩

/-- The stretch of one character. -/
def Span.ofChar (p : Position) (c : Char) : Span := ⟨p, p.after c⟩

/-- Whether a stretch stays within its line. -/
def Span.isOneLine (s : Span) : Bool := s.start.line = s.stop.line

/-- The rules that a pattern can break. -/
inductive FaultKind where
  | classEscapeInvalid
  | classRangeInvalid
  | classRangeLiteral
  | classUnclosed
  | decimalInvalid
  | escapeHexEmpty
  | escapeHexInvalid
  | escapeHexInvalidDigit
  | escapeUnexpectedEnd
  | escapeUnrecognized
  | flagDanglingNegation
  | flagDuplicate
  | flagRepeatedNegation
  | flagUnexpectedEnd
  | flagUnrecognized
  | groupNameDuplicate
  | groupNameEmpty
  | groupNameInvalid
  | groupNameUnexpectedEnd
  | groupUnclosed
  | groupUnopened
  | nestLimitExceeded
  | repetitionCountInvalid
  | repetitionCountDecimalEmpty
  | repetitionCountUnclosed
  | repetitionMissing
  | specialWordBoundaryUnclosed
  | specialWordBoundaryUnrecognized
  | specialWordOrRepetitionUnexpectedEnd
  | unicodeClassInvalid
  | unsupportedBackreference
  | unsupportedLookAround
  | unicodeNotAllowed
  | illFormedText
  | unicodePropertyNotFound
  | unicodePropertyValueNotFound
  deriving Repr, DecidableEq

/-- The greatest depth to which the parts of a pattern may be nested. -/
def nestLimit : Nat := 250

/-- The rule in words. -/
def FaultKind.message : FaultKind → String
  | .classEscapeInvalid => "invalid escape sequence found in character class"
  | .classRangeInvalid => "invalid character class range, the start must be <= the end"
  | .classRangeLiteral => "invalid range boundary, must be a literal"
  | .classUnclosed => "unclosed character class"
  | .decimalInvalid => "decimal literal invalid"
  | .escapeHexEmpty => "hexadecimal literal empty"
  | .escapeHexInvalid => "hexadecimal literal is not a Unicode scalar value"
  | .escapeHexInvalidDigit => "invalid hexadecimal digit"
  | .escapeUnexpectedEnd => "incomplete escape sequence, reached end of pattern prematurely"
  | .escapeUnrecognized => "unrecognized escape sequence"
  | .flagDanglingNegation => "dangling flag negation operator"
  | .flagDuplicate => "duplicate flag"
  | .flagRepeatedNegation => "flag negation operator repeated"
  | .flagUnexpectedEnd => "expected flag but got end of regex"
  | .flagUnrecognized => "unrecognized flag"
  | .groupNameDuplicate => "duplicate capture group name"
  | .groupNameEmpty => "empty capture group name"
  | .groupNameInvalid => "invalid capture group character"
  | .groupNameUnexpectedEnd => "unclosed capture group name"
  | .groupUnclosed => "unclosed group"
  | .groupUnopened => "unopened group"
  | .nestLimitExceeded =>
    "exceed the maximum number of nested parentheses/brackets (" ++ nestLimit.repr ++ ")"
  | .repetitionCountInvalid =>
    "invalid repetition count range, the start must be <= the end"
  | .repetitionCountDecimalEmpty => "repetition quantifier expects a valid decimal"
  | .repetitionCountUnclosed => "unclosed counted repetition"
  | .repetitionMissing => "repetition operator missing expression"
  | .specialWordBoundaryUnclosed =>
    "special word boundary assertion is either unclosed or contains an invalid character"
  | .specialWordBoundaryUnrecognized =>
    "unrecognized special word boundary assertion, valid choices are: start, end, "
      ++ "start-half or end-half"
  | .specialWordOrRepetitionUnexpectedEnd =>
    "found either the beginning of a special word boundary or a bounded repetition on a \\b "
      ++ "with an opening brace, but no closing brace"
  | .unicodeClassInvalid => "invalid Unicode character class"
  | .unsupportedBackreference => "backreferences are not supported"
  | .unsupportedLookAround =>
    "look-around, including look-ahead and look-behind, is not supported"
  | .unicodeNotAllowed => "Unicode not allowed here"
  | .illFormedText => "pattern can match invalid UTF-8"
  | .unicodePropertyNotFound => "Unicode property not found"
  | .unicodePropertyValueNotFound => "Unicode property value not found"

/-- A rule that a pattern breaks, with the place where it does and, for something given twice, the
place of the first. -/
structure Fault where
  kind : FaultKind
  span : Span
  first : Option Span := none
  deriving Repr, DecidableEq

/-! ## Reports -/

/-- Whether one stretch is shown before another. -/
def Span.isBefore (a b : Span) : Bool :=
  a.start.offset < b.start.offset
    || a.start.offset = b.start.offset && a.stop.offset ≤ b.stop.offset

/-- The stretches that a fault points at, in the order of the pattern. -/
def Fault.spans (fault : Fault) : List Span :=
  (fault.span :: fault.first.toList).mergeSort Span.isBefore

/-- The lines of a text: the breaks, and a carriage return just before a break, are left out, and
nothing follows a break at the end. -/
def linesFrom (line : List Char) (done : List String) : List Char → List String
  | [] => (if line.isEmpty then done else String.ofList line.reverse :: done).reverse
  | c :: rest =>
    if c = '\n' then
      let line := match line with
        | '\r' :: line' => line'
        | _ => line
      linesFrom [] (String.ofList line.reverse :: done) rest
    else linesFrom (c :: line) done rest

/-- The lines of a text, without their breaks. -/
def linesOf (text : String) : List String :=
  linesFrom [] [] text.toList

/-- Carets under the given stretches of a line, which begins in column `column`. -/
def carets (column : Nat) : List Span → String
  | [] => ""
  | span :: rest =>
    let gap := span.start.column - column
    let width := max 1 (span.stop.column - span.start.column)
    "".pushn ' ' gap ++ "".pushn '^' width ++ carets (column + gap + width) rest

/-- One line of a pattern, with the carets below it when any stretch lies in it. -/
def showLine (lead line : String) (indent : Nat) (spans : List Span) : String :=
  let shown := lead ++ line ++ "\n"
  if spans.isEmpty then shown else shown ++ "".pushn ' ' indent ++ carets 1 spans ++ "\n"

/-- The lines of a pattern from number `number` on, each after its number, which is right-aligned
to `width`; a single line is indented instead when the width is zero. -/
def showLines (width : Nat) (spans : List Span) (number : Nat) : List String → String
  | [] => ""
  | line :: rest =>
    let here := spans.filter fun span => span.isOneLine && span.start.line = number
    let digits := number.repr
    let shown :=
      if width = 0 then showLine "    " line 4 here
      else
        showLine ("".pushn ' ' (width - digits.length) ++ digits ++ ": ") line (width + 2) here
    shown ++ showLines width spans (number + 1) rest

/-- A stretch of several lines in words. -/
def Span.describe (s : Span) : String :=
  "on line " ++ s.start.line.repr ++ " (column " ++ s.start.column.repr ++ ") through line "
    ++ s.stop.line.repr ++ " (column " ++ (s.stop.column - 1).repr ++ ")"

/-- The whole report on a fault of `pattern`. -/
def Fault.report (pattern : String) (fault : Fault) : String :=
  let lines := linesOf pattern
  let count := lines.length + (if pattern.endsWith "\n" then 1 else 0)
  let width := if count ≤ 1 then 0 else count.repr.length
  let shown := showLines width fault.spans 1 lines
  let text :=
    if pattern.contains '\n' then
      let divider := "".pushn '~' 79
      let long := fault.spans.filter fun span => !span.isOneLine
      let notes :=
        if long.isEmpty then "" else "\n".intercalate (long.map Span.describe) ++ "\n"
      divider ++ "\n" ++ shown ++ divider ++ "\n" ++ notes
    else shown
  "regex parse error:\n" ++ text ++ "error: " ++ fault.kind.message

end Emend.Pattern
