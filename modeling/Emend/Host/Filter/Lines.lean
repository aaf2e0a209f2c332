/-
# Lines and numbers

What several filters share: lines of bytes, whole numbers as bytes and columns of a given width.
-/

import Emend.Text.Bytes

namespace Emend.Host.Filter

/-- The byte that ends a line. -/
def lineBreak : UInt8 := 0x0A

/-- The lines of an input, each with the byte that ends it; `line` is the line under way, in
reverse. -/
def linesFrom (ending : UInt8) (line : Bytes) : Bytes → List Bytes
  | [] => if line.isEmpty then [] else [line.reverse]
  | b :: rest =>
    if b = ending then (b :: line).reverse :: linesFrom ending [] rest
    else linesFrom ending (b :: line) rest

/-- The lines of an input, each with its break. -/
def linesOf (input : Bytes) : List Bytes := linesFrom lineBreak [] input

/-- A line without the byte that ends it. -/
def withoutEnd (line : Bytes) (ending : UInt8 := lineBreak) : Bytes :=
  if line.getLast? = some ending then line.dropLast else line

/-- The lines of an input, without their breaks. -/
def textLines (input : Bytes) : List Bytes := (linesOf input).map (withoutEnd ·)

/-- Whether a byte is a decimal digit. -/
def isDigit (b : UInt8) : Bool := 0x30 ≤ b && b ≤ 0x39

/-- Whether a byte is an octal digit. -/
def isOctal (b : UInt8) : Bool := 0x30 ≤ b && b ≤ 0x37

/-- Whether a byte is white space. -/
def isSpace (b : UInt8) : Bool := b = 0x20 || (0x09 ≤ b && b ≤ 0x0D)

/-- Whether a byte is a space or a tab. -/
def isBlank (b : UInt8) : Bool := b = 0x20 || b = 0x09

/-- The value of decimal digits. -/
def numeral (digits : Bytes) : Nat := digits.foldl (fun n b => n * 10 + (b.toNat - 0x30)) 0

/-- A number written in decimal digits. -/
def number? (text : Bytes) : Option Nat :=
  if text.isEmpty || !text.all isDigit then none else some (numeral text)

/-- A number in decimal digits. -/
def digits (n : Nat) : Bytes := Bytes.ofText n.repr

/-- A text in a column of a width, aligned to the right. -/
def rightAligned (width : Nat) (text : Bytes) : Bytes :=
  List.replicate (width - text.length) 0x20 ++ text

end Emend.Host.Filter
