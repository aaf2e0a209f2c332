/-
# What is wrong with a document

A fault names a problem and where it shows, and often what was being read and where that began.
-/

namespace Emend.Yaml

/-- A place in a document. -/
structure Mark where
  /-- The number of bytes before it. -/
  index : Nat := 0
  /-- The number of lines before its line. -/
  line : Nat := 0
  /-- The number of characters before it in its line. -/
  column : Nat := 0
  deriving Repr, DecidableEq, Inhabited

namespace Mark

/-- The place after a character on the same line. -/
def next (mark : Mark) (c : Char) : Mark :=
  { mark with index := mark.index + c.utf8Size, column := mark.column + 1 }

/-- The place after characters on the same line. -/
def nextAll (mark : Mark) (run : List Char) : Mark := run.foldl next mark

/-- The place after a line break of one character. -/
def nextLine (mark : Mark) (c : Char) : Mark :=
  { index := mark.index + c.utf8Size, line := mark.line + 1, column := 0 }

/-- Whether a place is the very beginning of a document; faults there are shown without a place. -/
def isOrigin (mark : Mark) : Bool := mark.line = 0 && mark.column = 0

/-- A place in words, lines and columns counted from one. -/
def text (mark : Mark) : String :=
  "line " ++ (mark.line + 1).repr ++ " column " ++ (mark.column + 1).repr

end Mark

/-- What can be wrong. -/
inductive Problem where
  -- with the bytes
  | leadingOctet
  | trailingOctet
  | incompleteSequence
  | sequenceLength
  | notScalarValue
  | controlCharacter
  -- with the tokens
  | cannotStartToken
  | expectedColon
  | entryNotAllowed
  | keyNotAllowed
  | valueNotAllowed
  | expectedDirectiveName
  | unknownDirective
  | notAlphabetical
  | expectedDigitOrDot
  | longVersionNumber
  | expectedVersionNumber
  | expectedBlank
  | expectedBlankOrBreak
  | expectedCommentOrBreak
  | expectedName
  | expectedExclamation
  | expectedClosingAngle
  | expectedTagUri
  | expectedUriEscape
  | uriLeadingOctet
  | uriTrailingOctet
  | indentationZero
  | tabForIndentation
  | tabBelowIndentation
  | documentIndicator
  | endOfStream
  | unknownEscape
  | expectedHexNumber
  | escapeNotScalarValue
  | unexpectedColon
  -- with their order
  | expectedDocumentStart
  | duplicateVersion
  | incompatibleVersion
  | duplicateTagHandle
  | undefinedTagHandle
  | expectedContent
  | expectedEntry
  | expectedKey
  | expectedCommaOrBracket
  | expectedCommaOrBrace
  -- with the references
  | unknownAnchor
  deriving Repr, DecidableEq

/-- A problem in words. -/
def Problem.message : Problem → String
  | leadingOctet => "invalid leading UTF-8 octet"
  | trailingOctet => "invalid trailing UTF-8 octet"
  | incompleteSequence => "incomplete UTF-8 octet sequence"
  | sequenceLength => "invalid length of a UTF-8 sequence"
  | notScalarValue => "invalid Unicode character"
  | controlCharacter => "control characters are not allowed"
  | cannotStartToken => "found character that cannot start any token"
  | expectedColon => "could not find expected ':'"
  | entryNotAllowed => "block sequence entries are not allowed in this context"
  | keyNotAllowed => "mapping keys are not allowed in this context"
  | valueNotAllowed => "mapping values are not allowed in this context"
  | expectedDirectiveName => "could not find expected directive name"
  | unknownDirective => "found unknown directive name"
  | notAlphabetical => "found unexpected non-alphabetical character"
  | expectedDigitOrDot => "did not find expected digit or '.' character"
  | longVersionNumber => "found extremely long version number"
  | expectedVersionNumber => "did not find expected version number"
  | expectedBlank => "did not find expected whitespace"
  | expectedBlankOrBreak => "did not find expected whitespace or line break"
  | expectedCommentOrBreak => "did not find expected comment or line break"
  | expectedName => "did not find expected alphabetic or numeric character"
  | expectedExclamation => "did not find expected '!'"
  | expectedClosingAngle => "did not find the expected '>'"
  | expectedTagUri => "did not find expected tag URI"
  | expectedUriEscape => "did not find URI escaped octet"
  | uriLeadingOctet => "found an incorrect leading UTF-8 octet"
  | uriTrailingOctet => "found an incorrect trailing UTF-8 octet"
  | indentationZero => "found an indentation indicator equal to 0"
  | tabForIndentation => "found a tab character where an indentation space is expected"
  | tabBelowIndentation => "found a tab character that violates indentation"
  | documentIndicator => "found unexpected document indicator"
  | endOfStream => "found unexpected end of stream"
  | unknownEscape => "found unknown escape character"
  | expectedHexNumber => "did not find expected hexadecimal number"
  | escapeNotScalarValue => "found invalid Unicode character escape code"
  | unexpectedColon => "found unexpected ':'"
  | expectedDocumentStart => "did not find expected <document start>"
  | duplicateVersion => "found duplicate %YAML directive"
  | incompatibleVersion => "found incompatible YAML document"
  | duplicateTagHandle => "found duplicate %TAG directive"
  | undefinedTagHandle => "found undefined tag handle"
  | expectedContent => "did not find expected node content"
  | expectedEntry => "did not find expected '-' indicator"
  | expectedKey => "did not find expected key"
  | expectedCommaOrBracket => "did not find expected ',' or ']'"
  | expectedCommaOrBrace => "did not find expected ',' or '\x7d'"
  | unknownAnchor => "unknown anchor"

/-- What was being read when a problem showed. -/
inductive Activity where
  | scanningToken
  | scanningSimpleKey
  | scanningDirective
  | scanningVersionDirective
  | scanningTagDirective
  | parsingTagDirective
  | scanningDirectiveHandle
  | parsingDirectiveHandle
  | scanningAnchor
  | scanningAlias
  | scanningTag
  | parsingTag
  | scanningBlockScalar
  | scanningQuotedScalar
  | parsingQuotedScalar
  | scanningPlainScalar
  | parsingNode
  | parsingBlockNode
  | parsingFlowNode
  | parsingBlockCollection
  | parsingBlockMapping
  | parsingFlowSequence
  | parsingFlowMapping
  deriving Repr, DecidableEq

/-- An activity in words. -/
def Activity.message : Activity → String
  | scanningToken => "while scanning for the next token"
  | scanningSimpleKey => "while scanning a simple key"
  | scanningDirective => "while scanning a directive"
  | scanningVersionDirective => "while scanning a %YAML directive"
  | scanningTagDirective => "while scanning a %TAG directive"
  | parsingTagDirective => "while parsing a %TAG directive"
  | scanningDirectiveHandle => "while scanning a tag directive"
  | parsingDirectiveHandle => "while parsing a tag directive"
  | scanningAnchor => "while scanning an anchor"
  | scanningAlias => "while scanning an alias"
  | scanningTag => "while scanning a tag"
  | parsingTag => "while parsing a tag"
  | scanningBlockScalar => "while scanning a block scalar"
  | scanningQuotedScalar => "while scanning a quoted scalar"
  | parsingQuotedScalar => "while parsing a quoted scalar"
  | scanningPlainScalar => "while scanning a plain scalar"
  | parsingNode => "while parsing a node"
  | parsingBlockNode => "while parsing a block node"
  | parsingFlowNode => "while parsing a flow node"
  | parsingBlockCollection => "while parsing a block collection"
  | parsingBlockMapping => "while parsing a block mapping"
  | parsingFlowSequence => "while parsing a flow sequence"
  | parsingFlowMapping => "while parsing a flow mapping"

/-- What is wrong and where. -/
structure Fault where
  problem : Problem
  /-- Where it shows, unless it is in the bytes. -/
  mark : Mark := {}
  /-- The number of bytes before it, if it is in the bytes. -/
  offset : Nat := 0
  /-- What was being read, and where it began. -/
  activity : Option (Activity × Mark) := none
  deriving Repr, DecidableEq

/-- A fault in words.  The place where the activity began is left out when it says nothing new. -/
def Fault.message (fault : Fault) : String :=
  let place :=
    if !fault.mark.isOrigin then " at " ++ fault.mark.text
    else if fault.offset ≠ 0 then " at position " ++ fault.offset.repr
    else ""
  let activity :=
    match fault.activity with
    | none => ""
    | some (activity, start) =>
      let sameStart := start.line = fault.mark.line && start.column = fault.mark.column
      ", " ++ activity.message
        ++ if start.isOrigin || sameStart then "" else " at " ++ start.text
  fault.problem.message ++ place ++ activity

end Emend.Yaml
