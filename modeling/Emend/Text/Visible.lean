/-
# What a terminal shows

A text may hold sequences that steer a terminal: an escape character and what belongs to it.  What
is left of the text without these and without control characters is visible; some white space among
the control characters stays.
-/

namespace Emend.Visible

/-- The part of a steering sequence that a place lies in. -/
inductive Part where
  /-- No sequence. -/
  | ground
  /-- After the escape character. -/
  | escape
  /-- After a sign that asks for one more. -/
  | more
  /-- In a sequence with numbers. -/
  | numbers
  /-- At the start of a device string. -/
  | deviceStart
  /-- Among the numbers of a device string. -/
  | deviceNumbers
  /-- After the numbers of a device string. -/
  | deviceSigns
  /-- In a string that a string terminator ends. -/
  | string
  /-- In a string that a bell ends. -/
  | command
  deriving Repr, DecidableEq

/-- Control characters that count as white space. -/
def isSpacing (c : Char) : Bool := c = '\t' || c = '\n' || c = '\x0c' || c = '\r'

/-- Characters that are seen outside of sequences. -/
def isSeen (c : Char) : Bool := (' ' ≤ c && c ≠ '\x7f') || isSpacing c

/-- Whether the encoding of a character has the byte of the string terminator. -/
def hasTerminator (c : Char) : Bool := (String.utf8EncodeChar c).contains 0x9C

/-- The part of a sequence after a character. -/
def Part.after (part : Part) (c : Char) : Part :=
  let isSign := ' ' ≤ c && c ≤ '/'
  let isFinal := '@' ≤ c && c ≤ '~'
  if c = '\x1b' then escape
  else if c = '\x18' || c = '\x1a' then ground
  else
    match part with
    | ground => ground
    | escape =>
      if isSign then more
      else if c = '[' then numbers
      else if c = ']' then command
      else if c = 'P' then deviceStart
      else if c = 'X' || c = '^' || c = '_' then string
      else if '0' ≤ c && c ≤ '~' then ground
      else escape
    | more => if '0' ≤ c && c ≤ '~' then ground else more
    | numbers => if isFinal then ground else numbers
    | deviceStart =>
      if isSign then deviceSigns
      else if '0' ≤ c && c ≤ '?' then deviceNumbers
      else if isFinal then string
      else deviceStart
    | deviceNumbers =>
      if isSign then deviceSigns
      else if '<' ≤ c && c ≤ '~' then string
      else deviceNumbers
    | deviceSigns => if '0' ≤ c && c ≤ '~' then string else deviceSigns
    | string => if 0x80 ≤ c.toNat && hasTerminator c then ground else string
    | command => if c = '\x07' then ground else command

/-- Whether a character is seen that does not follow one that is. -/
def Part.shows (part : Part) (c : Char) : Bool :=
  match part with
  | ground => isSeen c
  | escape | more | numbers => isSpacing c
  | _ => false

/-- The characters that are seen.  `part` is where the text stands; after a character that is seen,
`showing`, further ones are seen wherever they stand, up to one that is not seen outside of
sequences. -/
def charsFrom (part : Part) (showing : Bool) : List Char → List Char
  | [] => []
  | c :: rest =>
    if showing && isSeen c then
      c :: charsFrom (if 0x80 ≤ c.toNat then .ground else part) true rest
    else if part.shows c then c :: charsFrom part true rest
    else charsFrom (part.after c) false rest

/-- What is seen of a text. -/
def ofText (text : String) : String := String.ofList (charsFrom .ground false text.toList)

end Emend.Visible
