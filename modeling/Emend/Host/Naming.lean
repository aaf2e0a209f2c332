/-
# Names in messages

A name in a message is written as a shell would take it: as it is if it has only plain characters,
and in quotes otherwise.
-/

import Emend.Text.Bytes

namespace Emend.Host.Naming

/-- The quotation mark around names. -/
def mark : UInt8 := 0x27

/-- Bytes that have a meaning of their own somewhere in a word. -/
def special : Bytes := Bytes.ofText " !\"$&'()*:;<=>?[\\^\x60|"

/-- Bytes that have a meaning of their own at the start of a word. -/
def specialFirst : Bytes := Bytes.ofText "#~"

/-- Whether a byte can be seen. -/
def isPrinted (b : UInt8) : Bool := 0x20 ≤ b && b < 0x7F

/-- Whether a name needs no quotes. -/
def isPlain (name : Bytes) : Bool :=
  match name with
  | [] => false
  | first :: _ =>
    name.all (fun b => isPrinted b && !special.contains b) && !specialFirst.contains first
      && name ≠ Bytes.ofText "\x7b" && name ≠ Bytes.ofText "\x7d"

/-- The three octal digits of a byte. -/
def octal (b : UInt8) : Bytes :=
  [b / 64, b / 8 % 8, b % 8].map fun digit => 0x30 + digit

/-- A byte that cannot be seen, after a backslash. -/
def escape (b : UInt8) : Bytes :=
  0x5C :: match b with
    | 0x07 => Bytes.ofText "a"
    | 0x08 => Bytes.ofText "b"
    | 0x09 => Bytes.ofText "t"
    | 0x0A => Bytes.ofText "n"
    | 0x0B => Bytes.ofText "v"
    | 0x0C => Bytes.ofText "f"
    | 0x0D => Bytes.ofText "r"
    | _ => octal b

/-- The rest of a name in quotes.  Bytes that cannot be seen stand together in quotes of another
kind; `escaping` tells whether such quotes are open. -/
def quoteFrom (escaping : Bool) : Bytes → Bytes
  | [] => [mark]
  | b :: rest =>
    if isPrinted b then
      let text := if b = mark then [mark, 0x5C, mark, mark] else [b]
      (if escaping then [mark, mark] else []) ++ text ++ quoteFrom false rest
    else (if escaping then [] else [mark, 0x24, mark]) ++ escape b ++ quoteFrom true rest

/-- A name in quotes. -/
def quote (name : Bytes) : Bytes :=
  let isQuiet (b : UInt8) : Bool := isPrinted b && !(Bytes.ofText "!\"$\\\x60").contains b
  if name.contains mark && name.all isQuiet then 0x22 :: name ++ [0x22]
  else mark :: quoteFrom false name

/-- A name as it stands in a message. -/
def written (name : Bytes) : Bytes := if isPlain name then name else quote name

end Emend.Host.Naming
