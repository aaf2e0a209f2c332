/-
# Quoted text

A quoted text stands between double quotes.  A quote, a backslash and a few control characters have
short escapes; characters that would not be seen, or that would merge with their neighbour, are
written by number.
-/

import Emend.Unicode.Property

namespace Emend.Quoted

open Unicode

/-- Whether a character is written by number. -/
def isHidden (c : Char) : Bool :=
  Property.attached.contains c.toNat || Property.invisible.contains c.toNat

/-- The letter after the backslash in a short escape. -/
def shortEscape? : Char → Option Char
  | '\x00' => some '0'
  | '\t' => some 't'
  | '\r' => some 'r'
  | '\n' => some 'n'
  | '\\' => some '\\'
  | '"' => some '"'
  | _ => none

/-- A character as it is written inside quotes. -/
def quoteChar (c : Char) : List Char :=
  match shortEscape? c with
  | some letter => ['\\', letter]
  | none =>
    if isHidden c then
      ['\\', 'u', '\x7b'] ++ Nat.toDigits 16 c.toNat ++ ['\x7d']
    else [c]

/-- A text in quotes. -/
def quote (text : String) : String :=
  String.ofList (['"'] ++ text.toList.flatMap quoteChar ++ ['"'])

end Emend.Quoted
