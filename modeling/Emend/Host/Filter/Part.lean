/-
# Parts of a file

Filters that pass on the beginning or the end of what they read.
-/

import Emend.Host.Call
import Emend.Host.Filter.Lines
import Emend.Host.Options

namespace Emend.Host.Filter

/-- How much to take. -/
structure Amount where
  /-- Whether it is in bytes, as opposed to lines. -/
  inBytes : Bool := false
  count : Nat := 10
  /-- Whether the count is from the other side: to leave out at the end, or where to start. -/
  fromOther : Bool := false

/-- The factor that letters after a number stand for. -/
def factor? (suffix : Bytes) : Option Nat :=
  let power? (letter : UInt8) : Option Nat :=
    (Bytes.ofText "KMGTPEZYRQ").idxOf? (if letter = 0x6B then 0x4B else letter) |>.map (· + 1)
  match suffix with
  | [] => some 1
  | [0x62] => some 512
  | [letter] => (power? letter).map (Nat.pow 1024 ·)
  | [letter, 0x42] => (power? letter).map (Nat.pow 1000 ·)
  | [letter, 0x69, 0x42] => (power? letter).map (Nat.pow 1024 ·)
  | _ => none

/-- The greatest count. -/
def countLimit : Nat := 1 <<< 64

/-- A count, perhaps with a factor after it. -/
def count (text : Bytes) (what : String) : Except Bytes Nat :=
  let body := (text.dropWhile isSpace)
  let body := if body.head? = some 0x2B then body.tail else body
  let figures := body.takeWhile isDigit
  let refusal := OptionForm.about ("invalid number of " ++ what ++ ":") text
  match factor? (body.drop figures.length) with
  | some factor =>
    if figures.isEmpty then .error refusal
    else if countLimit ≤ numeral figures * factor then
      .error (refusal ++ Bytes.ofText ": Value too large for defined data type")
    else .ok (numeral figures * factor)
  | none => .error refusal

/-- The amount that the value of an option asks for; `sign` before it means that it is from the
other side. -/
def amount (inBytes : Bool) (sign : UInt8) (value : Bytes) : Except Bytes Amount := do
  let isSigned := value.head? = some sign
  let what := if inBytes then "bytes" else "lines"
  let value := if isSigned || value.head? = some 0x2D then value.tail else value
  return { inBytes, count := ← count value what, fromOther := isSigned }

/-- An option for an amount as it was written of old: a sign, a number and letters. -/
def oldAmount? (sign : UInt8) (arg : Bytes) : Option (Nat × Bytes) :=
  match arg with
  | first :: rest =>
    let figures := rest.takeWhile isDigit
    if first = sign && !figures.isEmpty then some (numeral figures, rest.drop figures.length)
    else none
  | [] => none

/-- The options for taking a part. -/
def partForms : List OptionForm :=
  [⟨'c', "bytes", true⟩, ⟨'n', "lines", true⟩, ⟨'q', "quiet", false⟩, ⟨'q', "silent", false⟩,
    ⟨'v', "verbose", false⟩, ⟨'z', "zero-terminated", false⟩]

/-- The amount that is asked for, ten lines if nothing else is. -/
def givenAmount (given : GivenOptions) (sign : UInt8) : Except Bytes Amount :=
  match given.last? ['c', 'n'] with
  | some (letter, value) => amount (letter = 'c') sign value
  | none => .ok {}

/-- The outcome of taking a part of each of several files.  Each part stands under the name of its
file if there are several or if that is asked for. -/
def takeParts (call : Call) (given : GivenOptions) (take : Bytes → Bytes) (unread : Bytes) :
    Outcome :=
  let found := call.read given.operands
  let named := !given.has 'q' && (given.has 'v' || 1 < found.length)
  let heading (isFirst : Bool) (name : Bytes) : Bytes :=
    let title := if name = Call.inputName then Bytes.ofText "standard input" else name
    if named then
      (if isFirst then [] else [lineBreak]) ++ Bytes.ofText "==> " ++ title ++ Bytes.ofText " <==\n"
    else []
  let step (state : List (Stream × Bytes) × Bool × Bool)
      (entry : Bytes × Except SystemError Bytes) : List (Stream × Bytes) × Bool × Bool :=
    let (written, isFirst, failed) := state
    match entry.2 with
    | .ok text => (written ++ [(.output, heading isFirst entry.1 ++ take text)], false, failed)
    | .error .isADirectory =>
      (written ++ [(.output, heading isFirst entry.1),
        call.message (OptionForm.about "error reading" entry.1 ": Is a directory")], false, true)
    | .error cause =>
      (written ++ [call.message
        (Bytes.ofText "cannot open " ++ Naming.quote entry.1
          ++ Bytes.ofText (" for reading: " ++ cause.reason))], isFirst, true)
  let (written, _, failed) := found.foldl step ([], true, false)
  { unread := if Call.readsInput given.operands then unread else call.input
    written
    status := .exited (if failed then 1 else 0) }

/-- The byte that ends a line. -/
def endingOf (given : GivenOptions) : UInt8 := if given.has 'z' then 0 else lineBreak

/-- The number of bytes that are read at a time. -/
def readSize : Nat := 8192

/-- Take the first bytes or lines. -/
def head (call : Call) : Outcome :=
  let parsed :=
    match call.args with
    | arg :: args =>
      match oldAmount? 0x2D arg with
      | some (count, letters) => do
        match letters.find? fun letter => !(Bytes.ofText "bckmqvz").contains letter with
        | some letter => throw (Bytes.ofText "invalid trailing option -- " ++ [letter])
        | none => pure ()
        let given ← OptionForm.parse partForms
          ((if letters.isEmpty then args else (0x2D :: letters.filter (· ≠ 0x63)) :: args))
        let asked : Amount ←
          if letters.contains 0x63 then pure { inBytes := true, count } else pure { count }
        if given.last? ['c', 'n'] |>.isSome then
          return (given, ← givenAmount given 0x2D)
        else return (given, asked)
      | none => do
        let given ← OptionForm.parse partForms call.args
        return (given, ← givenAmount given 0x2D)
    | [] => .ok ({}, {})
  match parsed with
  | .error text =>
    if (Bytes.ofText "invalid number").isPrefixOf text then call.fail text else call.refuse text
  | .ok (given, asked) =>
    let ending := endingOf given
    let take (text : Bytes) : Bytes :=
      if asked.inBytes then
        if asked.fromOther then text.take (text.length - asked.count) else text.take asked.count
      else
        let lines := linesFrom ending [] text
        (lines.take (if asked.fromOther then lines.length - asked.count else asked.count)).flatten
    let used := (take call.input).length
    let unread :=
      if asked.fromOther then []
      else if asked.inBytes then call.input.drop used
      else call.input.drop ((used + readSize - 1) / readSize * readSize)
    takeParts call given take unread

/-- Take the last bytes or lines. -/
def tail (call : Call) : Outcome :=
  let old (arg : Bytes) : Option (Except Bytes Amount) :=
    match oldAmount? 0x2D arg, oldAmount? 0x2B arg with
    | some (count, []), _ => some (.ok { count })
    | some (count, [0x63]), _ => some (.ok { inBytes := true, count })
    | some _, _ => some (.error (Bytes.ofText "option used in invalid context -- "
        ++ (arg.drop 1).take 1))
    | none, some (count, []) => some (.ok { count, fromOther := true })
    | none, some (count, [0x63]) => some (.ok { inBytes := true, count, fromOther := true })
    | none, _ => none
  let asked? := match call.args with
    | [arg] => old arg
    | [arg, _] => old arg
    | _ => none
  let parsed :=
    match asked? with
    | some asked => asked.map fun asked =>
        (({ operands := call.args.tail } : GivenOptions), asked)
    | none => do
      let given ← OptionForm.parse partForms call.args
      return (given, ← givenAmount given 0x2B)
  match parsed with
  | .error text =>
    if (Bytes.ofText "invalid number").isPrefixOf text || asked?.isSome then call.fail text
    else call.refuse text
  | .ok (given, asked) =>
    let ending := endingOf given
    let take (text : Bytes) : Bytes :=
      if asked.inBytes then
        text.drop (if asked.fromOther then asked.count - 1 else text.length - asked.count)
      else
        let lines := linesFrom ending [] text
        let dropped := if asked.fromOther then asked.count - 1 else lines.length - asked.count
        (lines.drop dropped).flatten
    takeParts call given take []

end Emend.Host.Filter
