/-
# Configurations given as text

A text of blank lines and comments holds the empty configuration and is not read any further; any
other is read as a document.
-/

import Emend.Config.Reading

namespace Emend

namespace Configuration

/-- Whether a byte is white space in a line. -/
def isLineBlank (b : UInt8) : Bool := b = 0x20 || b = 0x09 || b = 0x0C || b = 0x0D

/-- Whether the lines of a text are blank or comments.  While `inComment` is true the line under way
is a comment; otherwise all of it so far is white space. -/
def isBlankFrom (inComment : Bool) : Bytes → Bool
  | [] => true
  | b :: rest =>
    if b = 0x0A then isBlankFrom false rest
    else if inComment then isBlankFrom true rest
    else if isLineBlank b then isBlankFrom false rest
    else if b = 0x23 then isBlankFrom true rest
    else false

/-- Whether every line of a text is blank or a comment.  Lines end at line feeds. -/
def isBlank (text : Bytes) : Bool := isBlankFrom false text

/-- The configuration that a text holds. -/
def parse (text : Bytes) : Except ReadError Configuration :=
  if isBlank text then .ok {} else (Yaml.Document.ofBytes text).configuration

/-- The configuration that a text holds; `path` says where the text comes from. -/
def parseLabelled (path : Path) (text : Bytes) : Except Failure Configuration :=
  (parse text).mapError (.configInvalid path)

end Configuration

end Emend
