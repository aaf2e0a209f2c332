/-
# Conditions

What `test` says of its arguments: texts, numbers and files are looked at, and the answers are
connected.
-/

import Emend.Host.FileSystem
import Emend.Host.Filter.Lines
import Emend.Text.Utf8

namespace Emend.Host.Shell.Condition

/-- What an argument may be besides a text. -/
inductive Sign where
  | unary
  | binary
  | negation
  | conjunction
  | disjunction
  | opening
  | closing
  deriving Repr, DecidableEq

/-- The sign that an argument may be. -/
def sign? (arg : Bytes) : Option Sign :=
  match Utf8.lossy arg with
  | "!" => some .negation
  | "-a" => some .conjunction
  | "-o" => some .disjunction
  | "(" => some .opening
  | ")" => some .closing
  | text =>
    if ["-r", "-w", "-x", "-e", "-f", "-d", "-c", "-b", "-p", "-u", "-g", "-k", "-s", "-t", "-z",
        "-n", "-h", "-O", "-G", "-L", "-S"].contains text then some .unary
    else if ["=", "!=", "<", ">", "-eq", "-ne", "-ge", "-gt", "-le", "-lt", "-nt", "-ot",
        "-ef"].contains text then some .binary
    else none

/-- The sign that the first of some arguments is, given those after it. -/
def leading? (args : List Bytes) : Option Sign :=
  match args with
  | [] => none
  | arg :: rest =>
    match sign? arg with
    | some .unary =>
      let isOperand : Bool := match rest with
        | [] => true
        | [_] => false
        | next :: _ => sign? next = some .binary
      if isOperand then none else some .unary
    | some .opening => if rest.isEmpty then none else some .opening
    | other => other

/-- The whole number that an argument is. -/
def number (arg : Bytes) : Except Bytes Int :=
  let shown := (arg.dropWhile Filter.isSpace).reverse.dropWhile Filter.isSpace |>.reverse
  let isNegative := shown.head? = some 0x2D
  let body := if isNegative || shown.head? = some 0x2B then shown.tail else shown
  match Filter.number? body with
  | some n => .ok (if isNegative then -(n : Int) else n)
  | none => .error (Bytes.ofText "Illegal number: " ++ arg)

/-- Whether bytes stand before others in order. -/
def precedes : Bytes → Bytes → Bool
  | _, [] => false
  | [], _ :: _ => true
  | a :: first, b :: second => a < b || (a = b && precedes first second)

/-- What is said of one text. -/
def ofOne (files : FileSystem) (sign operand : Bytes) : Bool :=
  match Utf8.lossy sign with
  | "-z" => operand.isEmpty
  | "-n" => !operand.isEmpty
  | "-t" => false
  | text =>
    match files.resolve operand with
    | .ok (.node _ node) =>
      match text, node with
      | "-e", _ | "-O", _ | "-G", _ => true
      | "-f", .file _ => true
      | "-d", .directory => true
      | "-c", .device _ => true
      | "-r", _ | "-w", _ => true
      | "-x", .directory => true
      | "-s", .file n => !(files.contents n).isEmpty
      | "-s", .directory => true
      | _, _ => false
    | _ => false

/-- What is said of two texts. -/
def ofTwo (files : FileSystem) (sign first second : Bytes) : Except Bytes Bool := do
  match Utf8.lossy sign with
  | "=" => return first = second
  | "!=" => return first ≠ second
  | "<" => return precedes first second
  | ">" => return precedes second first
  | "-eq" => return (← number first) = (← number second)
  | "-ne" => return (← number first) ≠ (← number second)
  | "-ge" => return (← number second) ≤ (← number first)
  | "-gt" => return (← number second) < (← number first)
  | "-le" => return (← number first) ≤ (← number second)
  | "-lt" => return (← number first) < (← number second)
  | "-ef" =>
    match files.resolve first, files.resolve second with
    | .ok (.node one _), .ok (.node other _) => return one = other
    | _, _ => return false
  | _ => return false

/-- That an argument has to follow a sign. -/
def missing (sign : Bytes) : Bytes := sign ++ Bytes.ofText ": argument expected"

mutual

/-- Conditions of which one has to hold.  The second part of the answer begins with the last
argument that was looked at. -/
def readAny (files : FileSystem) (args : List Bytes) :
    (fuel : Nat) → Except Bytes (Bool × List Bytes)
  | 0 => .ok (false, args)
  | fuel + 1 => do
    let (first, place) ← readAll files args fuel
    if leading? place.tail = some .disjunction then
      let (second, place) ← readAny files (place.drop 2) fuel
      return (first || second, place)
    else return (first, place)

/-- Conditions of which all have to hold. -/
def readAll (files : FileSystem) (args : List Bytes) :
    (fuel : Nat) → Except Bytes (Bool × List Bytes)
  | 0 => .ok (false, args)
  | fuel + 1 => do
    let (first, place) ← readOne files args fuel
    if leading? place.tail = some .conjunction then
      let (second, place) ← readAll files (place.drop 2) fuel
      return (first && second, place)
    else return (first, place)

/-- A condition, perhaps one that must not hold. -/
def readOne (files : FileSystem) (args : List Bytes) :
    (fuel : Nat) → Except Bytes (Bool × List Bytes)
  | 0 => .ok (false, args)
  | fuel + 1 => do
    match leading? args, args with
    | some .negation, [_] => return (true, args)
    | some .negation, _ :: rest =>
      let (holds, place) ← readOne files rest fuel
      return (!holds, place)
    | some .opening, _ :: rest =>
      if leading? rest = some .closing then return (false, rest)
      else
        let (holds, place) ← readAny files rest fuel
        if leading? place.tail = some .closing then return (holds, place.tail)
        else throw (Bytes.ofText "closing paren expected")
    | some .unary, sign :: rest =>
      match rest with
      | operand :: _ => return (ofOne files sign operand, rest)
      | [] => throw (missing sign)
    | _, first :: sign :: rest =>
      if sign? sign = some .binary then
        match rest with
        | second :: _ => return (← ofTwo files sign first second, rest)
        | [] => throw (missing sign)
      else return (!first.isEmpty, args)
    | _, [first] => return (!first.isEmpty, args)
    | _, [] => return (false, [])

end

/-- Whether a condition holds; as few as four arguments are read in one way only. -/
def holdsFrom (files : FileSystem) (args : List Bytes) : (fuel : Nat) → Except Bytes Bool
  | 0 => .ok false
  | fuel + 1 => do
    let isOpen := args.head? = some (Bytes.ofText "(") && args.getLast? = some (Bytes.ofText ")")
    let whole (args : List Bytes) : Except Bytes Bool := do
      let (holds, place) ← readAny files args (8 * args.length + 8)
      match place with
      | arg :: _ :: _ => throw (arg ++ Bytes.ofText ": unexpected operator")
      | _ => return holds
    match args with
    | [] => return false
    | [first, sign, second] =>
      if sign? sign = some .binary then ofTwo files sign first second
      else if isOpen then whole [sign]
      else if first = Bytes.ofText "!" then return !(← holdsFrom files args.tail fuel)
      else whole args
    | [first, _, _, _] =>
      if isOpen then whole args.tail.dropLast
      else if first = Bytes.ofText "!" then return !(← holdsFrom files args.tail fuel)
      else whole args
    | _ => whole args

/-- Whether a condition holds. -/
def holds (files : FileSystem) (args : List Bytes) : Except Bytes Bool :=
  holdsFrom files args (args.length + 1)

end Emend.Host.Shell.Condition
