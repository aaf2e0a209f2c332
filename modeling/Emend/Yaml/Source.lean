/-
# The characters of a document

A document is given as bytes, which have to be UTF-8 and hold no control characters.  The bytes are
taken in portions: a fault in a portion shows before any of its characters can be read, so what can
be read of a faulty document are the portions before the faulty one.
-/

import Emend.Text.Bytes
import Emend.Yaml.Fault

namespace Emend.Yaml

/-- The characters that can be read. -/
structure Source where
  chars : List Char
  /-- What is wrong with the bytes after them; nothing when they are all there is. -/
  cut? : Option Fault := none
  deriving Repr, DecidableEq

namespace Source

/-- The number of bytes taken in at a time. -/
def portionSize : Nat := 16384

/-- The number of bytes of a character whose first byte is given, if it can be a first byte. -/
def width? (lead : UInt8) : Option Nat :=
  if lead < 0x80 then some 1
  else if lead < 0xC0 then none
  else if lead < 0xE0 then some 2
  else if lead < 0xF0 then some 3
  else if lead < 0xF8 then some 4
  else none

/-- The bits that a first byte contributes. -/
def leadBits (width : Nat) (lead : UInt8) : Nat :=
  match width with
  | 1 => lead.toNat
  | 2 => lead.toNat % 32
  | 3 => lead.toNat % 16
  | _ => lead.toNat % 8

/-- Whether a document may hold a character. -/
def isAllowed (n : Nat) : Bool :=
  n = 0x09 || n = 0x0A || n = 0x0D || (0x20 ≤ n && n ≤ 0x7E) || n = 0x85
    || (0xA0 ≤ n && n ≤ 0xD7FF) || (0xE000 ≤ n && n ≤ 0xFFFD) || (0x10000 ≤ n && n ≤ 0x10FFFF)

/-- Add the bits of the bytes that follow a first byte; the bytes before them are `offset` many. -/
def addTails (offset value : Nat) : List UInt8 → Except Fault Nat
  | [] => .ok value
  | tail :: tails =>
    if 0x80 ≤ tail && tail < 0xC0 then
      addTails (offset + 1) (value * 64 + tail.toNat % 64) tails
    else .error { problem := .trailingOctet, offset }

/-- The character whose bytes, `width` many of which are there, are `lead` and `tails`. -/
def decode (offset width : Nat) (lead : UInt8) (tails : List UInt8) : Except Fault Char := do
  let value ← addTails (offset + 1) (leadBits width lead) tails
  let least := match width with
    | 1 => 0
    | 2 => 0x80
    | 3 => 0x800
    | _ => 0x10000
  if value < least then throw { problem := .sequenceLength, offset }
  if (0xD800 ≤ value && value ≤ 0xDFFF) || 0x10FFFF < value then
    throw { problem := .notScalarValue, offset }
  if !isAllowed value then throw { problem := .controlCharacter, offset }
  return Char.ofNat value

/-- How far the bytes of a document have been read. -/
structure Progress where
  /-- The bytes that still belong to the character last read. -/
  pending : Nat := 0
  /-- The bytes before the next one. -/
  offset : Nat := 0
  /-- The bytes before the portion under way. -/
  portionStart : Nat := 0
  /-- The characters before the portion under way. -/
  charsBefore : Nat := 0
  /-- The characters read, the last one first. -/
  done : List Char := []
  /-- How many they are. -/
  count : Nat := 0

/-- The characters that can be read when the portion under way turns out faulty. -/
def Progress.cut (progress : Progress) (fault : Fault) : Source :=
  { chars := progress.done.reverse.take progress.charsBefore, cut? := some fault }

/-- The progress before a character of the given width: a character that does not fit into the
portion under way begins the next one. -/
def Progress.entering (progress : Progress) (width : Nat) : Progress :=
  if progress.portionStart + portionSize < progress.offset + width then
    { progress with portionStart := progress.offset, charsBefore := progress.count }
  else progress

/-- The progress after a character of the given width, of which one byte has been passed. -/
def Progress.after (progress : Progress) (width : Nat) (c : Char) : Progress :=
  { progress with
    pending := width - 1, offset := progress.offset + 1, done := c :: progress.done,
    count := progress.count + 1 }

/-- Read bytes on. -/
def readFrom (progress : Progress) : Bytes → Source
  | [] => { chars := progress.done.reverse }
  | b :: rest =>
    match progress.pending with
    | more + 1 => readFrom { progress with pending := more, offset := progress.offset + 1 } rest
    | 0 =>
      match width? b with
      | none =>
        (progress.entering 1).cut { problem := .leadingOctet, offset := progress.offset }
      | some width =>
        let progress := progress.entering width
        let tails := rest.take (width - 1)
        if tails.length < width - 1 then
          -- the end of the document is known only when all before it has been read
          { chars := progress.done.reverse
            cut? := some { problem := .incompleteSequence, offset := progress.offset } }
        else
          match decode progress.offset width b tails with
          | .error fault => progress.cut fault
          | .ok c => readFrom (progress.after width c) rest

/-- The characters of a document. -/
def ofBytes (content : Bytes) : Source := readFrom {} content

end Source

end Emend.Yaml
