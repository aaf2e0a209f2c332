/-
# What a scalar stands for

Where a scalar is not read as text, it may stand for nothing, a truth value or a number.  The
configuration has none of these, so they matter only for saying what was found instead.
-/

import Emend.Number.Reading
import Emend.Text.Quoted
import Emend.Yaml.Document

namespace Emend.Yaml

open Number

/-- What a scalar stands for. -/
inductive Untyped where
  | null
  | boolean (value : Bool)
  /-- A whole number of at most 64 bits. -/
  | integer (value : Int)
  /-- A whole number of more than 64 bits. -/
  | wideInteger (value : Int)
  /-- A number with a fraction or an exponent, as it is shown. -/
  | number (shown : String)
  | text (value : String)
  deriving Repr, DecidableEq

namespace Untyped

/-- Whether a plain text stands for nothing.  The empty text is not among these. -/
def isNull (text : String) : Bool :=
  text = "null" || text = "Null" || text = "NULL" || text = "~"

/-- The truth value that a plain text stands for. -/
def boolean? (text : String) : Option Bool :=
  if text = "true" || text = "True" || text = "TRUE" then some true
  else if text = "false" || text = "False" || text = "FALSE" then some false
  else none

/-! ## Whole numbers -/

/-- Whether a character is a sign. -/
def isSign (c : Char) : Bool := c = '+' || c = '-'

/-- A text without the given character before it. -/
def without (c : Char) : List Char → List Char
  | first :: rest => if first = c then rest else first :: rest
  | [] => []

/-- A text without a sign before it. -/
def withoutSign : List Char → List Char
  | first :: rest => if isSign first then rest else first :: rest
  | [] => []

/-- Whether a text is made of digits that begin with a zero which is not the only one.  It is no
number. -/
def isZeroLed (text : List Char) : Bool :=
  match withoutSign text with
  | '0' :: digit :: rest => (digit :: rest).all Char.isDigit
  | _ => false

/-- The value of digits after the sign of a base. -/
def basedDigits? : List Char → Option Nat
  | '0' :: 'x' :: rest => digits? 16 rest
  | '0' :: 'o' :: rest => digits? 8 rest
  | '0' :: 'b' :: rest => digits? 2 rest
  | _ => none

/-- The whole number, zero or more, that a text stands for. -/
def natural? (text : List Char) : Option Nat :=
  let unsigned := without '+' text
  basedDigits? unsigned <|> if isZeroLed text then none else digits? 10 unsigned

/-- The negative whole number that a text stands for. -/
def negative? (text : List Char) : Option Int :=
  match text with
  | '-' :: rest =>
    (basedDigits? rest <|> if isZeroLed text then none else digits? 10 rest).map fun n => -(n : Int)
  | _ => none

/-- The whole number, of at most 128 bits, that a text stands for. -/
def integer? (text : List Char) : Option Untyped :=
  match natural? text, negative? text with
  | some n, _ =>
    if n < 1 <<< 64 then some (.integer n)
    else if n < 1 <<< 128 then some (.wideInteger n)
    else none
  | none, some i =>
    if -(1 <<< 63 : Nat) ≤ i then some (.integer i)
    else if -(1 <<< 127 : Nat) ≤ i then some (.wideInteger i)
    else none
  | none, none => none

/-! ## Other numbers -/

/-- A number of double precision that a text stands for, as it is shown. -/
def number? (text : List Char) : Option String :=
  let unsigned := without '+' text
  if text.head? = some '+' && unsigned.head?.any isSign then none
  else
    let word := String.ofList text
    let unsignedWord := String.ofList unsigned
    if [".inf", ".Inf", ".INF"].contains unsignedWord then some "inf"
    else if ["-.inf", "-.Inf", "-.INF"].contains word then some "-inf"
    else if [".nan", ".NaN", ".NAN"].contains word then some "NaN"
    else
      let isNegative := unsigned.head? = some '-'
      let magnitude := if isNegative then unsigned.tail else unsigned
      ((Decimal.ofChars? magnitude).bind Decimal.nearest?).map fun number =>
        (if isNegative then "-" else "") ++ number.shortest.text

/-! ## Scalars -/

/-- What a plain text stands for. -/
def ofPlain (text : List Char) : Untyped :=
  let word := String.ofList text
  if text.isEmpty || isNull word then .null
  else
    match boolean? word with
    | some value => .boolean value
    | none =>
      match integer? text with
      | some found => found
      | none =>
        match if isZeroLed text then none else number? text with
        | some shown => .number shown
        | none => .text word

/-- What a value is, in words. -/
def describe : Untyped → String
  | null => "unit value"
  | boolean value => "boolean \x60" ++ (if value then "true" else "false") ++ "\x60"
  | integer value => "integer \x60" ++ toString value ++ "\x60"
  | wideInteger value =>
    "integer \x60" ++ toString value ++ "\x60 as " ++ (if value < 0 then "i128" else "u128")
  | number shown => "floating point \x60" ++ shown ++ "\x60"
  | text value => "string " ++ Quoted.quote value

end Untyped

/-- Tags that say what a scalar stands for. -/
inductive CoreTag where
  | bool
  | int
  | float
  | null
  deriving Repr, DecidableEq

/-- The core tag with a name. -/
def CoreTag.ofName? (name : Bytes) : Option CoreTag :=
  if name = Bytes.ofText "tag:yaml.org,2002:bool" then some .bool
  else if name = Bytes.ofText "tag:yaml.org,2002:int" then some .int
  else if name = Bytes.ofText "tag:yaml.org,2002:float" then some .float
  else if name = Bytes.ofText "tag:yaml.org,2002:null" then some .null
  else none

/-- What values with a core tag are called where a scalar with the tag is none. -/
def CoreTag.describe : CoreTag → String
  | bool => "a boolean"
  | int => "an integer"
  | float => "a float"
  | null => "null"

/-- The value that a text with a core tag stands for, if it does. -/
def CoreTag.value? (tag : CoreTag) (text : List Char) : Option Untyped :=
  let word := String.ofList text
  match tag with
  | bool => (Untyped.boolean? word).map .boolean
  | int => Untyped.integer? text
  | float => (Untyped.number? text).map .number
  | null => if Untyped.isNull word then some .null else none

/-- What a scalar stands for.  A core tag that does not fit the text is reported instead. -/
def Untyped.ofScalar (tag : Option Bytes) (text : List Char) (isPlain : Bool) :
    Except CoreTag Untyped :=
  match tag with
  | none => .ok (if isPlain then .ofPlain text else .text (String.ofList text))
  | some name =>
    match CoreTag.ofName? name with
    | some tag =>
      match tag.value? text with
      | some value => .ok value
      | none => .error tag
    | none =>
      let isLocal := name.head? = some 0x21
      .ok (if isLocal && isPlain then .ofPlain text else .text (String.ofList text))

end Emend.Yaml
