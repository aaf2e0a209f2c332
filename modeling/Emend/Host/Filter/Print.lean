/-
# Printing arguments

Programs that write their arguments, in one line or put into a template, and sequences of numbers.
-/

import Emend.Host.Filter.Exchange

namespace Emend.Host.Filter

/-- The arguments in one line. -/
def inLine (args : List Bytes) : Bytes := ([0x20] : Bytes).intercalate args

/-! ## Escapes -/

/-- Who prints: a shell and a program by itself do not agree in everything. -/
inductive Printer where
  | shell
  | program
  deriving Repr, DecidableEq

/-- The value of a digit in base 16. -/
def hexValue? (b : UInt8) : Option Nat :=
  if isDigit b then some (b.toNat - 0x30)
  else if 0x61 ≤ b && b ≤ 0x66 then some (b.toNat - 0x57)
  else if 0x41 ≤ b && b ≤ 0x46 then some (b.toNat - 0x37)
  else none

/-- Whether a byte is a digit in base 16. -/
def isHex (b : UInt8) : Bool := (hexValue? b).isSome

/-- The value of digits in base 16. -/
def hexNumeral (digits : Bytes) : Nat :=
  (digits.filterMap hexValue?).foldl (fun n value => n * 16 + value) 0

/-- The byte that is written as an escape, given what follows the backslash, and the number of bytes
that this takes. -/
def escapeAt? (printer : Printer) (rest : Bytes) : Option (UInt8 × Nat) :=
  let octal := (rest.take 3).takeWhile isOctal
  match rest with
  | [] => none
  | b :: after =>
    let hex := (after.take 2).takeWhile isHex
    if !octal.isEmpty then some (UInt8.ofNat (octalValue octal), octal.length)
    else if b = 0x65 then some (0x1B, 1)
    else if b = 0x78 && printer = .program && !hex.isEmpty then
      some (UInt8.ofNat (hexNumeral hex), 1 + hex.length)
    else (escape? b).map (·, 1)

/-! ## One line -/

/-- What is left of a text that a `\c` may end, with escapes read, and whether it has ended. -/
def echoText (printer : Printer) (passed : Nat) : Bytes → Bytes × Bool
  | [] => ([], false)
  | b :: rest =>
    match passed with
    | more + 1 => echoText printer more rest
    | 0 =>
      let go (b : UInt8) (length : Nat) :=
        let (text, ended) := echoText printer length rest
        (b :: text, ended)
      if b ≠ 0x5C then go b 0
      else
        match rest with
        | 0x63 :: _ => ([], true)
        | 0x30 :: digits =>
          let digits := (digits.take 3).takeWhile isOctal
          go (UInt8.ofNat (octalValue digits)) (1 + digits.length)
        | _ =>
          match escapeAt? printer rest with
          | some (meant, length) => go meant length
          | none => go b 0

/-- Texts in one line, with escapes read; nothing follows a text that ends it. -/
def echoLine (printer : Printer) : List Bytes → Bytes × Bool
  | [] => ([], false)
  | [arg] => echoText printer 0 arg
  | arg :: args =>
    let (text, ended) := echoText printer 0 arg
    if ended then (text, true)
    else
      let (others, ended) := echoLine printer args
      (text ++ 0x20 :: others, ended)

/-- Write the arguments in one line, with escapes read. -/
def echoEscaped (call : Call) : Outcome :=
  let (args, lineEnd) :=
    match call.args with
    | first :: rest =>
      if first = Bytes.ofText "-n" then (rest, ([] : Bytes)) else (call.args, [lineBreak])
    | [] => ([], [lineBreak])
  let (text, ended) := echoLine .shell args
  { unread := call.input, written := [(.output, text ++ if ended then [] else lineEnd)] }

/-- Whether an argument has options for writing a line. -/
def isEchoOption (arg : Bytes) : Bool :=
  match arg with
  | 0x2D :: letter :: letters =>
    (letter :: letters).all fun b => b = 0x6E || b = 0x65 || b = 0x45
  | _ => false

/-- Write the arguments in one line. -/
def echo (call : Call) : Outcome :=
  let letters := (call.args.takeWhile isEchoOption).flatMap List.tail
  let args := call.args.dropWhile isEchoOption
  let lineEnd : Bytes := if letters.contains 0x6E then [] else [lineBreak]
  let reads := (letters.filter (· ≠ 0x6E)).getLast? = some 0x65
  let (text, ended) := if reads then echoLine .program args else (inLine args, false)
  { unread := call.input, written := [(.output, text ++ if ended then [] else lineEnd)] }

/-! ## Templates -/

/-- Where a value is put into a template: what precedes the letter that tells its kind. -/
structure Slot where
  leftAligned : Bool := false
  zeros : Bool := false
  plus : Bool := false
  blank : Bool := false
  alternate : Bool := false
  width : Nat := 0
  precision : Option Nat := none

namespace Slot

/-- The slot with a flag. -/
def withFlag (slot : Slot) (flag : UInt8) : Slot :=
  match flag with
  | 0x2D => { slot with leftAligned := true }
  | 0x30 => { slot with zeros := true }
  | 0x2B => { slot with plus := true }
  | 0x20 => { slot with blank := true }
  | 0x23 => { slot with alternate := true }
  | _ => slot

/-- A text in the width of a slot. -/
def pad (slot : Slot) (text : Bytes) : Bytes :=
  let fill := List.replicate (slot.width - text.length) 0x20
  if slot.leftAligned then text ++ fill else fill ++ text

/-- A text put into a slot. -/
def text (slot : Slot) (value : Bytes) : Bytes :=
  slot.pad (match slot.precision with
    | some limit => value.take limit
    | none => value)

/-- A number put into a slot: a sign, a mark for its base and its digits. -/
def number (slot : Slot) (sign mark digits : Bytes) : Bytes :=
  let digits := match slot.precision with
    | some least => List.replicate (least - digits.length) 0x30 ++ digits
    | none => digits
  if slot.zeros && !slot.leftAligned && slot.precision.isNone then
    let length := sign.length + mark.length + digits.length
    sign ++ mark ++ List.replicate (slot.width - length) 0x30 ++ digits
  else slot.pad (sign ++ mark ++ digits)

/-- The digits of a number in a base. -/
def digitsIn (base n : Nat) (isUpper : Bool) : Bytes :=
  (Nat.toDigits base n).map fun c => UInt8.ofNat (if isUpper then c.toUpper else c).toNat

/-- A whole number put into a slot of a kind. -/
def integer (slot : Slot) (kind : UInt8) (value : Int) : Bytes :=
  let natural := if value < 0 then 1 <<< 64 - value.natAbs else value.natAbs
  let mark (text : String) : Bytes :=
    if slot.alternate && natural ≠ 0 then Bytes.ofText text else []
  match kind with
  | 0x6F => slot.number [] (mark "0") (digitsIn 8 natural false)
  | 0x78 => slot.number [] (mark "0x") (digitsIn 16 natural false)
  | 0x58 => slot.number [] (mark "0X") (digitsIn 16 natural true)
  | 0x75 => slot.number [] [] (digitsIn 10 natural false)
  | _ =>
    let sign : Bytes :=
      if value < 0 then [0x2D] else if slot.plus then [0x2B] else if slot.blank then [0x20] else []
    slot.number sign [] (digitsIn 10 value.natAbs false)

end Slot

/-- The slot after a percent sign, the kind of its value and the number of bytes that they take.
`args` are the values for a width or a precision that are left to an argument. -/
def slotOf (args : List Bytes) (template : Bytes) : Slot × List Bytes × Option UInt8 × Nat :=
  let flags := template.takeWhile fun b => (Bytes.ofText "-+ #0").contains b
  let slot := flags.foldl Slot.withFlag {}
  let rest := template.drop flags.length
  let (slot, args, used, rest) :=
    match rest with
    | 0x2A :: rest =>
      ({ slot with width := (number? (args.headD [])).getD 0 }, args.tail, 1, rest)
    | _ =>
      let figures := rest.takeWhile isDigit
      ({ slot with width := numeral figures }, args, figures.length, rest.drop figures.length)
  let (slot, args, used, rest) :=
    match rest with
    | 0x2E :: 0x2A :: rest =>
      ({ slot with precision := some ((number? (args.headD [])).getD 0) }, args.tail, used + 2,
        rest)
    | 0x2E :: rest =>
      let figures := rest.takeWhile isDigit
      ({ slot with precision := some (numeral figures) }, args, used + 1 + figures.length,
        rest.drop figures.length)
    | _ => (slot, args, used, rest)
  (slot, args, rest.head?, flags.length + used + 1)

/-- The whole number at the start of a text, in the base that its first digits tell, and what is
left of the text. -/
def leadingInteger (text : Bytes) : Int × Bytes :=
  let text := text.dropWhile isSpace
  let isNegative := text.head? = some 0x2D
  let body := if isNegative || text.head? = some 0x2B then text.tail else text
  let signed (n : Nat) : Int := if isNegative then -(n : Int) else n
  match body with
  | 0x30 :: x :: rest =>
    if (x = 0x78 || x = 0x58) && rest.head?.any isHex then
      let figures := rest.takeWhile isHex
      (signed (hexNumeral figures), rest.drop figures.length)
    else
      let figures := (x :: rest).takeWhile isOctal
      (signed (octalValue figures), (x :: rest).drop figures.length)
  | _ =>
    let figures := body.takeWhile isDigit
    (signed (numeral figures), if figures.isEmpty then text else body.drop figures.length)

/-- Whole numbers with a sign are less than this. -/
def integerLimit : Int := (1 <<< 63 : Nat)

/-- Whole numbers without a sign are less than this. -/
def naturalLimit : Int := (1 <<< 64 : Nat)

/-- What is wrong with an argument. -/
inductive ArgumentFault where
  | noNumber
  | notWhole
  | outOfRange
  deriving Repr, DecidableEq

/-- What is wrong with an argument in words. -/
def ArgumentFault.message (fault : ArgumentFault) (printer : Printer) (arg : Bytes) : Bytes :=
  let words := match fault, printer with
    | noNumber, .shell => "expected numeric value"
    | noNumber, .program => "expected a numeric value"
    | notWhole, .shell => "not completely converted"
    | notWhole, .program => "value not completely converted"
    | outOfRange, _ => "Numerical result out of range"
  (if printer = .shell then arg else Naming.quote arg) ++ Bytes.ofText (": " ++ words)

/-- The number that an argument is for a slot of a kind, and what is wrong with it. -/
def integerArgument (kind : UInt8) (arg : Bytes) : Int × Option ArgumentFault :=
  let isSigned := kind = 0x64 || kind = 0x69
  match arg with
  | 0x22 :: b :: _ => (b.toNat, none)
  | 0x27 :: b :: _ => (b.toNat, none)
  | _ =>
    let (value, rest) := leadingInteger arg
    if arg.isEmpty then (0, none)
    else if value < -integerLimit then (-integerLimit, some .outOfRange)
    else if naturalLimit ≤ value || isSigned && integerLimit ≤ value then
      ((if isSigned then integerLimit else naturalLimit) - 1, some .outOfRange)
    else if rest.isEmpty then (value, none)
    else if rest.length = (arg.dropWhile isSpace).length then (value, some .noNumber)
    else (value, some .notWhole)

/-- What is written of a template. -/
structure Filled where
  text : Bytes := []
  /-- The arguments that are left. -/
  args : List Bytes
  /-- What is wrong with arguments. -/
  faults : List Bytes := []
  /-- Whether the template makes no sense. -/
  isMisread : Bool := false
  /-- Whether nothing more is to be written. -/
  ended : Bool := false

namespace Filled

/-- Add a text to what is written. -/
def add (filled : Filled) (text : Bytes) : Filled := { filled with text := filled.text ++ text }

/-- Add what is wrong with an argument. -/
def withFault (filled : Filled) (fault? : Option Bytes) : Filled :=
  { filled with faults := filled.faults ++ fault?.toList }

/-- End with a template that makes no sense, of which a slot is given. -/
def misread (filled : Filled) (printer : Printer) (slot : Bytes) (hasKind : Bool) : Filled :=
  let words := match printer with
    | .shell =>
      if hasKind then 0x25 :: slot ++ Bytes.ofText ": invalid directive"
      else Bytes.ofText "missing format character"
    | .program => 0x25 :: slot ++ Bytes.ofText ": invalid conversion specification"
  { filled.withFault (some words) with isMisread := true, ended := true }

end Filled

/-- The escape after a backslash in a template, and the number of bytes that it takes. -/
def templateEscape (printer : Printer) (rest : Bytes) : UInt8 × Nat :=
  match escapeAt? printer rest with
  | some found => found
  | none =>
    if printer = .program && rest.head? = some 0x22 then (0x22, 1) else (0x5C, 0)

/-- Write a template once; its next `passed` bytes have been dealt with. -/
def fill (printer : Printer) (filled : Filled) (passed : Nat) : Bytes → Filled
  | [] => filled
  | b :: rest =>
    match passed with
    | more + 1 => fill printer filled more rest
    | 0 =>
      if b = 0x5C then
        if printer = .program && rest.head? = some 0x63 then { filled with ended := true }
        else
          let (meant, length) := templateEscape printer rest
          fill printer (filled.add [meant]) length rest
      else if b ≠ 0x25 then fill printer (filled.add [b]) 0 rest
      else if rest.head? = some 0x25 then fill printer (filled.add [b]) 1 rest
      else
        let (slot, args, kind?, length) := slotOf filled.args rest
        let arg := args.headD []
        let next : Filled := { filled with args := args.tail }
        match kind? with
        | none => filled.misread printer rest false
        | some 0x73 => fill printer (next.add (slot.text arg)) length rest
        | some 0x63 => fill printer (next.add (slot.pad (arg.take 1))) length rest
        | some 0x62 =>
          let (text, ended) := echoText printer 0 arg
          let next := next.add (slot.text text)
          if ended then { next with ended := true } else fill printer next length rest
        | some kind =>
          if (Bytes.ofText "diouxX").contains kind then
            let (value, fault?) := integerArgument kind arg
            let fault? := fault?.map (·.message printer arg)
            fill printer ((next.add (slot.integer kind value)).withFault fault?) length rest
          else filled.misread printer (rest.take length) true

/-- Write a template as often as there are arguments for it, at least once. -/
def fillAll (printer : Printer) (template : Bytes) (filled : Filled) : (fuel : Nat) → Filled
  | 0 => filled
  | fuel + 1 =>
    let next := fill printer filled 0 template
    if next.ended || next.args.isEmpty || next.args.length = filled.args.length then next
    else fillAll printer template next fuel

/-- Write a template with the arguments put in. -/
def printf (printer : Printer) (call : Call) : Outcome :=
  let args := if call.args.head? = some (Bytes.ofText "--") then call.args.tail else call.args
  match args with
  | template :: args =>
    let filled := fillAll printer template { args } (args.length + 1)
    let failure := if filled.isMisread && printer = .shell then 2 else 1
    { unread := call.input
      written := filled.faults.map call.message ++ [(.output, filled.text)]
      status := .exited (if filled.faults.isEmpty then 0 else failure) }
  | [] => call.refuse (Bytes.ofText "missing operand")

/-! ## Numbers -/

/-- The options for sequences. -/
def seqForms : List OptionForm :=
  [⟨'s', "separator", true⟩, ⟨'w', "equal-width", false⟩]

/-- The whole number that an argument is. -/
def wholeNumber (arg : Bytes) : Except Bytes Int :=
  let isNegative := arg.head? = some 0x2D
  match number? (if isNegative || arg.head? = some 0x2B then arg.tail else arg) with
  | some n => .ok (if isNegative then -(n : Int) else n)
  | none => .error (OptionForm.about "invalid floating point argument:" arg)

/-- A number in digits, perhaps in a width that zeros fill. -/
def numberText (width : Nat) (n : Int) : Bytes :=
  let sign : Bytes := if n < 0 then [0x2D] else []
  let figures := digits n.natAbs
  sign ++ List.replicate (width - sign.length - figures.length) 0x30 ++ figures

/-- Write whole numbers from one to another; a number with a sign is no option. -/
def seq (call : Call) : Outcome :=
  let isOption (arg : Bytes) : Bool := arg.head? = some 0x2D && !(arg.drop 1).head?.any isDigit
  let isNumbers := !(call.args.head?.any isOption)
  let parsed := if isNumbers then .ok { operands := call.args }
    else OptionForm.parse seqForms call.args false
  match parsed with
  | .error text => call.refuse text
  | .ok given =>
    match given.operands.mapM wholeNumber, given.operands with
    | _, [] => call.refuse (Bytes.ofText "missing operand")
    | _, _ :: _ :: _ :: extra :: _ => call.refuse (OptionForm.about "extra operand" extra)
    | .error text, _ => call.refuse text
    | .ok numbers, _ =>
      let (first, step, last) :=
        match numbers with
        | [first, step, last] => (first, step, last)
        | [first, last] => (first, 1, last)
        | _ => (1, 1, numbers.headD 0)
      if step = 0 then
        call.refuse
          (OptionForm.about "invalid Zero increment value:" (given.operands.getD 1 []))
      else
        let count := ((last - first) / step + 1).toNat
        let values := (List.range count).map fun (n : Nat) => first + step * n
        let widths := values.map fun n => (numberText 0 n).length
        let width := if given.has 'w' then widths.foldl max 0 else 0
        let separator := (given.value? 's').getD [lineBreak]
        let text := separator.intercalate (values.map (numberText width))
        { unread := call.input
          written := [(.output, if values.isEmpty then [] else text ++ [lineBreak])] }

/-! ## Nothing -/

/-- Whether an argument is a time: a number, perhaps with a fraction and a unit. -/
def isTime (arg : Bytes) : Bool :=
  let body := if arg.getLast?.any (Bytes.ofText "smhd").contains then arg.dropLast else arg
  let whole := body.takeWhile isDigit
  match body.drop whole.length with
  | [] => !whole.isEmpty
  | 0x2E :: fraction => fraction.all isDigit && !(whole.isEmpty && fraction.isEmpty)
  | _ => false

/-- Do nothing for a time. -/
def sleep (call : Call) : Outcome :=
  match call.args.find? fun arg => !isTime arg with
  | some arg => call.refuse (OptionForm.about "invalid time interval" arg)
  | none =>
    if call.args.isEmpty then call.refuse (Bytes.ofText "missing operand")
    else { unread := call.input }

/-- Do nothing and end with a code. -/
def endWith (code : Nat) (call : Call) : Outcome :=
  { unread := call.input, status := .exited code }

end Emend.Host.Filter
