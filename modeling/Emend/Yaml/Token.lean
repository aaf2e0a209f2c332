/-
# Tokens

`Token.scan` turns the characters of a document into tokens.  Indentation becomes tokens that open
and close block collections.  That a token is the key of a mapping may show only later, at the colon
after it; until then it is a candidate, and tokens from it on are held back.
-/

import Emend.Yaml.Scalar

namespace Emend.Yaml

open Number

/-- What a token is. -/
inductive TokenKind where
  | streamStart
  | streamEnd
  | versionDirective (major minor : Nat)
  | tagDirective (handle : List Char) (replacement : Bytes)
  | documentStart
  | documentEnd
  | blockSequenceStart
  | blockMappingStart
  | blockEnd
  | flowSequenceStart
  | flowSequenceEnd
  | flowMappingStart
  | flowMappingEnd
  | blockEntry
  | flowEntry
  | key
  | value
  | alias (name : List Char)
  | anchor (name : List Char)
  | tag (handle : List Char) (suffix : Bytes)
  | scalar (text : List Char) (style : Style)
  deriving Repr, DecidableEq

/-- A token and the stretch of the document that it takes. -/
structure Token where
  kind : TokenKind
  start : Mark
  stop : Mark
  deriving Repr, DecidableEq

/-! ## Names, tags and directives -/

namespace Cursor

/-- Read the name after the sign of an anchor or an alias. -/
def anchorName (cursor : Cursor) (activity : Activity) : Except Fault (List Char × Cursor) := do
  let (name, after) ← (cursor.skip).span isNameChar
  let follower := after.char
  let mayFollow :=
    isBlankOrEnd follower || ['?', ':', ',', ']', '\x7d', '%', '@', '\x60'].contains follower
  if name.isEmpty || !mayFollow then throw (after.fault .expectedName activity cursor.mark)
  return (name, after)

/-- Whether a character may stand in a tag.  Some of the signs of flow collections may do so only
inside angle brackets. -/
def isUriChar (inAngles : Bool) (c : Char) : Bool :=
  isNameChar c
    || [';', '/', '?', ':', '@', '&', '=', '+', '$', '.', '%', '!', '~', '*', '\'', '(',
      ')'].contains c
    || (inAngles && (c = ',' || c = '[' || c = ']'))

/-- What is being read when a tag, or the directive about tags, is at fault. -/
def tagActivity (inDirective : Bool) : Activity :=
  if inDirective then .parsingTagDirective else .parsingTag

/-- Read an octet written as a percent sign and two hexadecimal digits. -/
def uriOctet (cursor : Cursor) (inDirective : Bool) (start : Mark) : Except Fault UInt8 := do
  cursor.need 3
  match cursor.char, hexDigit? (cursor.peek 1), hexDigit? (cursor.peek 2) with
  | '%', some high, some low => return UInt8.ofNat (high * 16 + low)
  | _, _, _ => throw (cursor.fault .expectedUriEscape (tagActivity inDirective) start)

/-- Read the octets of one escaped character, `count` of which are still to come after the
first. -/
def uriTails (inDirective : Bool) (start : Mark) (octets : Bytes) (cursor : Cursor) :
    (count : Nat) → Except Fault (Bytes × Cursor)
  | 0 => return (octets, cursor)
  | count + 1 => do
    let octet ← cursor.uriOctet inDirective start
    if !(0x80 ≤ octet && octet < 0xC0) then
      throw (cursor.fault .uriTrailingOctet (tagActivity inDirective) start)
    uriTails inDirective start (octets ++ [octet]) cursor.skip.skip.skip count

/-- Read a character that is written as escaped octets. -/
def uriEscape (cursor : Cursor) (inDirective : Bool) (start : Mark) :
    Except Fault (Bytes × Cursor) := do
  let octet ← cursor.uriOctet inDirective start
  match Source.width? octet with
  | none => throw (cursor.fault .uriLeadingOctet (tagActivity inDirective) start)
  | some width => uriTails inDirective start [octet] cursor.skip.skip.skip (width - 1)

/-- Read the characters of a tag, of which there are fewer than of `bound`. -/
def uriFrom (inAngles inDirective : Bool) (start : Mark) (uri : Bytes) (cursor : Cursor) :
    (bound : List Char) → Except Fault (Bytes × Cursor)
  | [] => return (uri, cursor)
  | _ :: bound => do
    cursor.need 1
    if !isUriChar inAngles cursor.char then return (uri, cursor)
    if cursor.char = '%' then
      let (octets, cursor) ← cursor.uriEscape inDirective start
      uriFrom inAngles inDirective start (uri ++ octets) cursor bound
    else
      let c := cursor.char
      uriFrom inAngles inDirective start (uri ++ String.utf8EncodeChar c) cursor.skip bound

/-- Read the characters of a tag after `head`, the part of it that has been read as a handle; its
exclamation mark does not count.  The whole must not be empty.  An octet zero ends it. -/
def uri (cursor : Cursor) (inAngles inDirective : Bool) (head : List Char) (start : Mark) :
    Except Fault (Bytes × Cursor) := do
  let (octets, after) ←
    uriFrom inAngles inDirective start (Bytes.ofChars head.tail) cursor (endChar :: cursor.rest)
  if head.isEmpty && after.mark = cursor.mark then
    throw (after.fault .expectedTagUri (tagActivity inDirective) start)
  return (octets.takeWhile (· ≠ 0), after)

/-- Read the handle of a tag: an exclamation mark, a name and another exclamation mark.  Without the
second one it may turn out to be no handle, which a directive does not allow. -/
def tagHandle (cursor : Cursor) (inDirective : Bool) (start : Mark) :
    Except Fault (List Char × Cursor) := do
  cursor.need 1
  if cursor.char ≠ '!' then
    throw (cursor.fault .expectedExclamation
      (if inDirective then .scanningDirectiveHandle else .scanningTag) start)
  let (name, after) ← cursor.skip.span isNameChar
  if after.char = '!' then return ('!' :: name ++ ['!'], after.skip)
  if inDirective && !name.isEmpty then
    throw (after.fault .expectedExclamation .parsingDirectiveHandle start)
  return ('!' :: name, after)

/-- Read a tag. -/
def tag (cursor : Cursor) (inFlow : Bool) : Except Fault (TokenKind × Cursor) := do
  let start := cursor.mark
  cursor.need 2
  let (kind, after) ←
    if cursor.peek 1 = '<' then do
      let (suffix, after) ← cursor.skip.skip.uri true false [] start
      if after.char ≠ '>' then throw (after.fault .expectedClosingAngle .scanningTag start)
      pure (TokenKind.tag [] suffix, after.skip)
    else do
      let (handle, after) ← cursor.tagHandle false start
      if 1 < handle.length && handle.getLast? = some '!' then
        let (suffix, after) ← after.uri false false [] start
        pure (TokenKind.tag handle suffix, after)
      else
        let (suffix, after) ← after.uri false false handle start
        if suffix.isEmpty then pure (TokenKind.tag [] (Bytes.ofText "!"), after)
        else pure (TokenKind.tag ['!'] suffix, after)
  after.need 1
  if !isBlankOrEnd after.char && !(inFlow && after.char = ',') then
    throw (after.fault .expectedBlankOrBreak .scanningTag start)
  return (kind, after)

/-- Read a number of the version directive, which has at most nine digits. -/
def versionNumber (cursor : Cursor) (start : Mark) : Except Fault (Nat × Cursor) := do
  cursor.need 1
  let digits := cursor.rest.takeWhile Char.isDigit
  if 9 < digits.length then
    let reached : Cursor := digits.take 9 |>.foldl (fun cursor _ => cursor.skip) cursor
    throw (reached.fault .longVersionNumber .scanningVersionDirective start)
  let (digits, after) ← cursor.span Char.isDigit
  if digits.isEmpty then
    throw (cursor.fault .expectedVersionNumber .scanningVersionDirective start)
  return (digits.foldl (fun value c => value * 10 + (c.toNat - '0'.toNat)) 0, after)

/-- Read what the version directive says. -/
def version (cursor : Cursor) (start : Mark) : Except Fault (TokenKind × Cursor) := do
  cursor.need 1
  let cursor ← cursor.skipWhile isBlank
  let (major, cursor) ← cursor.versionNumber start
  if cursor.char ≠ '.' then
    throw (cursor.fault .expectedDigitOrDot .scanningVersionDirective start)
  let (minor, cursor) ← cursor.skip.versionNumber start
  return (.versionDirective major minor, cursor)

/-- Read what the directive about tags says. -/
def tagReplacement (cursor : Cursor) (start : Mark) : Except Fault (TokenKind × Cursor) := do
  cursor.need 1
  let cursor ← cursor.skipWhile isBlank
  let (handle, cursor) ← cursor.tagHandle true start
  cursor.need 1
  if !isBlank cursor.char then
    throw (cursor.fault .expectedBlank .scanningTagDirective start)
  let cursor ← cursor.skipWhile isBlank
  let (replacement, cursor) ← cursor.uri true true [] start
  cursor.need 1
  if !isBlankOrEnd cursor.char then
    throw (cursor.fault .expectedBlankOrBreak .scanningTagDirective start)
  return (.tagDirective handle replacement, cursor)

/-- Read a directive and the rest of its line. -/
def directive (cursor : Cursor) : Except Fault (Token × Cursor) := do
  let start := cursor.mark
  cursor.skip.need 1
  let (name, cursor) ← cursor.skip.span isNameChar
  if name.isEmpty then
    throw (cursor.fault .expectedDirectiveName .scanningDirective start)
  if !isBlankOrEnd cursor.char then
    throw (cursor.fault .notAlphabetical .scanningDirective start)
  let (kind, cursor) ←
    if name = ['Y', 'A', 'M', 'L'] then cursor.version start
    else if name = ['T', 'A', 'G'] then cursor.tagReplacement start
    else throw (cursor.fault .unknownDirective .scanningDirective start)
  let stop := cursor.mark
  cursor.need 1
  let cursor ← cursor.skipWhile isBlank
  let cursor ← cursor.skipComment
  if !isBreakOrEnd cursor.char then
    throw (cursor.fault .expectedCommentOrBreak .scanningDirective start)
  if isBreak cursor.char then cursor.need 2
  let cursor := if isBreak cursor.char then cursor.skipBreak else cursor
  return ({ kind, start, stop }, cursor)

/-- Skip white space, comments and line breaks before a token; of the characters there are fewer
than of `bound`.  A tab separates tokens only where no key may start, and one byte order mark may
begin each line.  The result says whether a line break was among what was skipped. -/
def toToken (keyAllowed inFlow lineEnded : Bool) (cursor : Cursor) :
    (bound : List Char) → Except Fault (Bool × Cursor)
  | [] => return (lineEnded, cursor)
  | _ :: bound => do
    cursor.need 1
    let cursor :=
      if cursor.mark.column = 0 && cursor.char = '\ufeff' then cursor.skip else cursor
    cursor.need 1
    let cursor ← cursor.skipWhile fun c => c = ' ' || (c = '\t' && (inFlow || !keyAllowed))
    let cursor ← cursor.skipComment
    if isBreak cursor.char then
      cursor.need 2
      toToken (keyAllowed || !inFlow) inFlow true cursor.skipBreak bound
    else return (lineEnded, cursor)

end Cursor

/-! ## Scanning -/

/-- A token that may turn out to be the first of a key. -/
structure Candidate where
  /-- Whether it has to be a key because of its indentation. -/
  required : Bool
  /-- The number of tokens before it. -/
  number : Nat
  /-- Where it starts. -/
  mark : Mark
  deriving Repr, DecidableEq

/-- The state of scanning a document. -/
structure Scanner where
  cursor : Cursor
  /-- Whether the first token, which stands for the beginning, has been produced. -/
  started : Bool := false
  /-- Tokens that have been found and are held back. -/
  held : List Token := []
  /-- The number of tokens that have been handed over. -/
  handed : Nat := 0
  /-- The candidate for a key at the present level of brackets. -/
  candidate : Option Candidate := none
  /-- The candidates at the levels around it, the innermost first. -/
  outerCandidates : List (Option Candidate) := []
  /-- Whether a key may start at the cursor. -/
  keyAllowed : Bool := true
  /-- The column of the block collection around the cursor; -1 outside any. -/
  indent : Int := -1
  /-- The columns of the block collections around that one, the innermost first. -/
  outerIndents : List Int := []

namespace Scanner

/-- Whether the cursor stands inside brackets. -/
def inFlow (s : Scanner) : Bool := !s.outerCandidates.isEmpty

/-- The place of the cursor. -/
def mark (s : Scanner) : Mark := s.cursor.mark

/-- Add a token at the end. -/
def push (s : Scanner) (token : Token) : Scanner := { s with held := s.held ++ [token] }

/-- Add a token that takes no characters. -/
def pushEmpty (s : Scanner) (kind : TokenKind) : Scanner :=
  s.push { kind, start := s.mark, stop := s.mark }

/-- Add a token for the next `length` characters, none of which is a line break. -/
def pushSkipping (s : Scanner) (kind : TokenKind) (length : Nat) : Scanner :=
  let cursor := (List.range length).foldl (fun cursor _ => cursor.skip) s.cursor
  { s.push { kind, start := s.mark, stop := cursor.mark } with cursor }

/-- Insert a token before the one with a number. -/
def insert (s : Scanner) (number : Nat) (token : Token) : Scanner :=
  let place := number - s.handed
  { s with held := s.held.take place ++ token :: s.held.drop place }

/-- The fault of a candidate that had to be a key. -/
def missingColon (s : Scanner) (candidate : Candidate) : Fault :=
  s.cursor.fault .expectedColon .scanningSimpleKey candidate.mark

/-- Give up the candidate at the present level. -/
def dropCandidate (s : Scanner) : Except Fault Scanner :=
  match s.candidate with
  | some candidate =>
    if candidate.required then .error (s.missingColon candidate)
    else .ok { s with candidate := none }
  | none => .ok s

/-- Make the token at the cursor a candidate, if a key may start there. -/
def addCandidate (s : Scanner) : Except Fault Scanner :=
  if s.keyAllowed then do
    let candidate : Candidate :=
      { required := !s.inFlow && s.indent = s.mark.column
        number := s.handed + s.held.length
        mark := s.mark }
    return { (← s.dropCandidate) with candidate := some candidate }
  else .ok s

/-- The number of bytes that a key may have. -/
def keyLimit : Nat := 1024

/-- Whether a candidate is too far back to be a key: a key ends in its line and is not too long. -/
def isStale (s : Scanner) (candidate : Candidate) : Bool :=
  candidate.mark.line < s.mark.line || candidate.mark.index + keyLimit < s.mark.index

/-- What is left of a candidate at the cursor. -/
def refresh (s : Scanner) : Option Candidate → Except Fault (Option Candidate)
  | some candidate =>
    if s.isStale candidate then
      if candidate.required then .error (s.missingColon candidate) else .ok none
    else .ok (some candidate)
  | none => .ok none

/-- Give up the candidates that are too far back, from the outermost level inwards. -/
def dropStale (s : Scanner) : Except Fault Scanner := do
  let outer ← s.outerCandidates.reverse.mapM s.refresh
  let candidate ← s.refresh s.candidate
  return { s with candidate, outerCandidates := outer.reverse }

/-- Open a block collection at a column, if it is further in than the one around.  Its token goes
before the token with the given number, or to the end. -/
def openBlock (s : Scanner) (column : Nat) (number : Option Nat) (kind : TokenKind)
    (mark : Mark) : Scanner :=
  if !s.inFlow && s.indent < column then
    let token : Token := { kind, start := mark, stop := mark }
    let s := { s with indent := (column : Int), outerIndents := s.indent :: s.outerIndents }
    match number with
    | some number => s.insert number token
    | none => s.push token
  else s

/-- Close the block collections further in than a column: `indents` are the columns of the
collections around the present one. -/
def closeBlocksFrom (column : Int) (s : Scanner) : (indents : List Int) → Scanner
  | [] => s
  | outer :: indents =>
    if column < s.indent then
      closeBlocksFrom column
        { s.pushEmpty .blockEnd with indent := outer, outerIndents := indents } indents
    else s

/-- Close the block collections further in than a column. -/
def closeBlocks (s : Scanner) (column : Int) : Scanner :=
  if s.inFlow then s else closeBlocksFrom column s s.outerIndents

/-! ### One token after the other -/

/-- The end of the document. -/
def fetchEnd (s : Scanner) : Except Fault Scanner := do
  let mark := s.mark
  let mark :=
    if mark.column ≠ 0 then { mark with line := mark.line + 1, column := 0 } else mark
  let s := { s with cursor := { s.cursor with mark } }
  let s ← (s.closeBlocks (-1)).dropCandidate
  return { s with keyAllowed := false }.pushEmpty .streamEnd

/-- A directive. -/
def fetchDirective (s : Scanner) : Except Fault Scanner := do
  let s ← (s.closeBlocks (-1)).dropCandidate
  let (token, cursor) ← s.cursor.directive
  return { s with keyAllowed := false, cursor }.push token

/-- A sign between documents. -/
def fetchIndicator (s : Scanner) (kind : TokenKind) : Except Fault Scanner := do
  let s ← (s.closeBlocks (-1)).dropCandidate
  return { s with keyAllowed := false }.pushSkipping kind 3

/-- An opening bracket. -/
def fetchOpening (s : Scanner) (kind : TokenKind) : Except Fault Scanner := do
  let s ← s.addCandidate
  return { s with
    candidate := none, outerCandidates := s.candidate :: s.outerCandidates
    keyAllowed := true }.pushSkipping kind 1

/-- A closing bracket. -/
def fetchClosing (s : Scanner) (kind : TokenKind) : Except Fault Scanner := do
  let s ← s.dropCandidate
  let s := match s.outerCandidates with
    | outer :: rest => { s with candidate := outer, outerCandidates := rest }
    | [] => s
  return { s with keyAllowed := false }.pushSkipping kind 1

/-- A comma. -/
def fetchFlowEntry (s : Scanner) : Except Fault Scanner := do
  let s ← s.dropCandidate
  return { s with keyAllowed := true }.pushSkipping .flowEntry 1

/-- A fault at the cursor about which there is nothing more to say. -/
def misplaced (s : Scanner) (problem : Problem) : Fault := { problem, mark := s.mark }

/-- The dash of an entry. -/
def fetchBlockEntry (s : Scanner) : Except Fault Scanner := do
  if !s.inFlow && !s.keyAllowed then throw (s.misplaced .entryNotAllowed)
  let s := s.openBlock s.mark.column none .blockSequenceStart s.mark
  let s ← s.dropCandidate
  return { s with keyAllowed := true }.pushSkipping .blockEntry 1

/-- The question mark of a key. -/
def fetchKey (s : Scanner) : Except Fault Scanner := do
  if !s.inFlow && !s.keyAllowed then throw (s.misplaced .keyNotAllowed)
  let s := s.openBlock s.mark.column none .blockMappingStart s.mark
  let s ← s.dropCandidate
  return { s with keyAllowed := !s.inFlow }.pushSkipping .key 1

/-- The colon of a value.  The candidate, if there is one, turns out to be the key. -/
def fetchValue (s : Scanner) : Except Fault Scanner :=
  match s.candidate with
  | some candidate =>
    let mark := candidate.mark
    let s := s.insert candidate.number { kind := .key, start := mark, stop := mark }
    let s := s.openBlock mark.column (some candidate.number) .blockMappingStart mark
    return { s with candidate := none, keyAllowed := false }.pushSkipping .value 1
  | none => do
    if !s.inFlow && !s.keyAllowed then throw (s.misplaced .valueNotAllowed)
    let s := s.openBlock s.mark.column none .blockMappingStart s.mark
    return { s with keyAllowed := !s.inFlow }.pushSkipping .value 1

/-- An anchor or an alias. -/
def fetchAnchor (s : Scanner) (activity : Activity) (kind : List Char → TokenKind) :
    Except Fault Scanner := do
  let s ← s.addCandidate
  let (name, cursor) ← s.cursor.anchorName activity
  let token : Token := { kind := kind name, start := s.mark, stop := cursor.mark }
  return { s with keyAllowed := false, cursor }.push token

/-- A tag. -/
def fetchTag (s : Scanner) : Except Fault Scanner := do
  let s ← s.addCandidate
  let (kind, cursor) ← s.cursor.tag s.inFlow
  let token : Token := { kind, start := s.mark, stop := cursor.mark }
  return { s with keyAllowed := false, cursor }.push token

/-- Add a scalar. -/
def pushScalar (s : Scanner) (style : Style) (keyAllowed : Bool) (scalar : ScalarText) : Scanner :=
  let token : Token := { kind := .scalar scalar.text style, start := s.mark, stop := scalar.stop }
  { s with keyAllowed, cursor := scalar.cursor }.push token

/-- A block scalar. -/
def fetchBlockScalar (s : Scanner) (style : Style) : Except Fault Scanner := do
  let s ← s.dropCandidate
  return s.pushScalar style true (← s.cursor.block (style = .folded) s.indent)

/-- A quoted scalar. -/
def fetchQuoted (s : Scanner) (style : Style) : Except Fault Scanner := do
  let s ← s.addCandidate
  return s.pushScalar style false (← s.cursor.quoted)

/-- A plain scalar.  A key may start after it if it is the last thing in its line. -/
def fetchPlain (s : Scanner) : Except Fault Scanner := do
  let s ← s.addCandidate
  let scalar ← s.cursor.plain s.inFlow (s.indent + 1)
  return s.pushScalar .plain scalar.lineEnded scalar

/-- Whether a plain scalar can start at the cursor. -/
def startsPlain (s : Scanner) : Bool :=
  let c := s.cursor.char
  let follower := s.cursor.peek 1
  let special := isBlankOrEnd c || isFlowIndicator c
    || ['-', '?', ':', '#', '&', '*', '!', '|', '>', '\'', '"', '%', '@', '\x60'].contains c
  !special || (c = '-' && !isBlank follower)
    || (!s.inFlow && (c = '?' || c = ':') && !isBlankOrEnd follower)

/-- The token at the cursor. -/
def fetchHere (s : Scanner) : Except Fault Scanner :=
  let c := s.cursor.char
  let stands := s.inFlow || isBlankOrEnd (s.cursor.peek 1)
  let indicator := s.mark.column = 0 && startsDocumentIndicator s.cursor.rest
  if s.cursor.rest.isEmpty then s.fetchEnd
  else if s.mark.column = 0 && c = '%' then s.fetchDirective
  else if indicator && c = '-' then s.fetchIndicator .documentStart
  else if indicator then s.fetchIndicator .documentEnd
  else if c = '[' then s.fetchOpening .flowSequenceStart
  else if c = '\x7b' then s.fetchOpening .flowMappingStart
  else if c = ']' then s.fetchClosing .flowSequenceEnd
  else if c = '\x7d' then s.fetchClosing .flowMappingEnd
  else if c = ',' then s.fetchFlowEntry
  else if c = '-' && isBlankOrEnd (s.cursor.peek 1) then s.fetchBlockEntry
  else if c = '?' && stands then s.fetchKey
  else if c = ':' && stands then s.fetchValue
  else if c = '*' then s.fetchAnchor .scanningAlias .alias
  else if c = '&' then s.fetchAnchor .scanningAnchor .anchor
  else if c = '!' then s.fetchTag
  else if c = '|' && !s.inFlow then s.fetchBlockScalar .literal
  else if c = '>' && !s.inFlow then s.fetchBlockScalar .folded
  else if c = '\'' then s.fetchQuoted .singleQuoted
  else if c = '"' then s.fetchQuoted .doubleQuoted
  else if s.startsPlain then s.fetchPlain
  else .error (s.cursor.fault .cannotStartToken .scanningToken s.mark)

/-- Find the next token. -/
def fetch (s : Scanner) : Except Fault Scanner := do
  s.cursor.need 1
  if !s.started then return { s with started := true }.pushEmpty .streamStart
  let (lineEnded, cursor) ←
    s.cursor.toToken s.keyAllowed s.inFlow false (endChar :: s.cursor.rest)
  let s := { s with cursor, keyAllowed := s.keyAllowed || (lineEnded && !s.inFlow) }
  let s ← s.dropStale
  let s := s.closeBlocks s.mark.column
  s.cursor.need 4
  s.fetchHere

/-! ### All tokens -/

/-- Whether the first token held back may be the first of a key. -/
def isBlocked (s : Scanner) : Bool :=
  (s.candidate :: s.outerCandidates).any fun candidate? =>
    match candidate? with
    | some candidate => candidate.number = s.handed
    | none => false

/-- Hand over the tokens that nothing holds back any longer, after those of `done`, which are in
reverse. -/
def release (s : Scanner) (done : List Token) : List Token → Scanner × List Token
  | [] => ({ s with held := [] }, done)
  | token :: held =>
    if s.isBlocked then ({ s with held := token :: held }, done)
    else release { s with handed := s.handed + 1 } (token :: done) held

/-- Scan on, each round finding one token.  The result holds the tokens that could be handed over,
and what is wrong after them. -/
def scanFrom (s : Scanner) (done : List Token) : (fuel : Nat) → List Token × Option Fault
  | 0 => (done.reverse, none)
  | fuel + 1 =>
    match s.fetch with
    | .error fault => (done.reverse, some fault)
    | .ok s =>
      match s.dropStale with
      | .error fault => (done.reverse, some fault)
      | .ok s =>
        let (s, done) := s.release done s.held
        if done.head?.any fun token => token.kind = .streamEnd then (done.reverse, none)
        else scanFrom s done fuel

end Scanner

/-- The tokens of a document, up to what is wrong with it, if anything.  Every token but the first
and the last takes at least one character. -/
def Token.scan (source : Source) : List Token × Option Fault :=
  Scanner.scanFrom { cursor := .start source } [] (source.chars.length + 3)

end Emend.Yaml
