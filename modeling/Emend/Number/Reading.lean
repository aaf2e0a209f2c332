/-
# Numbers in texts

How digits, and decimals written with them, are read.
-/

import Emend.Number.Decimal

namespace Emend.Number

/-- The value of a hexadecimal digit. -/
def hexDigit? (c : Char) : Option Nat :=
  if c.isDigit then some (c.toNat - '0'.toNat)
  else if 'a' ≤ c && c ≤ 'f' then some (c.toNat - 'a'.toNat + 10)
  else if 'A' ≤ c && c ≤ 'F' then some (c.toNat - 'A'.toNat + 10)
  else none

/-- The value of digits, on top of `value`. -/
def digitsFrom (base value : Nat) : List Char → Option Nat
  | [] => some value
  | c :: rest =>
    match hexDigit? c with
    | some digit => if digit < base then digitsFrom base (value * base + digit) rest else none
    | none => none

/-- The value of at least one digit. -/
def digits? (base : Nat) (text : List Char) : Option Nat :=
  if text.isEmpty then none else digitsFrom base 0 text

/-- The value of an exponent: digits after an optional sign. -/
def exponent? (text : List Char) : Option Int :=
  match text with
  | '-' :: rest => (digits? 10 rest).map fun n => -(n : Int)
  | '+' :: rest => (digits? 10 rest).map fun n => (n : Int)
  | _ => (digits? 10 text).map fun n => (n : Int)

/-- The decimal, zero or more, that a text stands for: digits with an optional point among or
around them and an optional exponent. -/
def Decimal.ofChars? (text : List Char) : Option Decimal := do
  let whole := text.takeWhile Char.isDigit
  let rest := text.dropWhile Char.isDigit
  let (fraction, rest) :=
    match rest with
    | '.' :: rest => (rest.takeWhile Char.isDigit, rest.dropWhile Char.isDigit)
    | _ => ([], rest)
  let digits ← digits? 10 (whole ++ fraction)
  let exponent ←
    match rest with
    | [] => some 0
    | c :: rest => if c = 'e' || c = 'E' then exponent? rest else none
  return { digits, exponent := exponent - fraction.length }

end Emend.Number
