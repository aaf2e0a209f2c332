/-
# Exchanging bytes

The filter that exchanges, deletes and squeezes bytes.  The sets of bytes that it works on are
written with escapes, intervals, classes and repetitions.
-/

import Emend.Host.Call
import Emend.Host.Filter.Lines
import Emend.Host.Options

namespace Emend.Host.Filter

/-! ## Escapes -/

/-- The byte that a letter after a backslash stands for. -/
def escape? (b : UInt8) : Option UInt8 :=
  match b with
  | 0x61 => some 0x07
  | 0x62 => some 0x08
  | 0x66 => some 0x0C
  | 0x6E => some 0x0A
  | 0x72 => some 0x0D
  | 0x74 => some 0x09
  | 0x76 => some 0x0B
  | 0x5C => some 0x5C
  | _ => none

/-- The value of octal digits. -/
def octalValue (digits : Bytes) : Nat := digits.foldl (fun n b => n * 8 + (b.toNat - 0x30)) 0

/-- A byte of a set, and whether it was escaped, so that it has no meaning of its own. -/
abbrev SetByte := UInt8 × Bool

/-- The bytes of a text, the next `passed` having been dealt with. -/
def unescape (passed : Nat) : Bytes → List SetByte
  | [] => []
  | b :: rest =>
    match passed with
    | more + 1 => unescape more rest
    | 0 =>
      if b ≠ 0x5C then (b, false) :: unescape 0 rest
      else
        match rest with
        | [] => [(b, false)]
        | next :: _ =>
          let three := (rest.take 3).takeWhile isOctal
          let digits := if 256 ≤ octalValue three then three.take 2 else three
          if digits.isEmpty then ((escape? next).getD next, true) :: unescape 1 rest
          else (UInt8.ofNat (octalValue digits), true) :: unescape digits.length rest

/-! ## Sets -/

/-- A part of a set. -/
inductive Construct where
  | byte (b : UInt8)
  /-- All bytes from one to another. -/
  | interval (first last : UInt8)
  /-- The bytes of a kind. -/
  | kind (name : Bytes)
  /-- A byte by itself, written as a kind. -/
  | equivalents (b : UInt8)
  /-- A byte a number of times, or as often as needed. -/
  | repeated (b : UInt8) (count? : Option Nat)
  deriving Repr, DecidableEq

/-- The bytes from one to another. -/
def interval (first last : UInt8) : Bytes :=
  (List.range (last.toNat + 1 - first.toNat)).map fun n => UInt8.ofNat (first.toNat + n)

/-- The bytes of a named kind. -/
def kind? (name : Bytes) : Option Bytes :=
  let upper := interval 0x41 0x5A
  let lower := interval 0x61 0x7A
  let digits := interval 0x30 0x39
  let signs := interval 0x21 0x2F ++ interval 0x3A 0x40 ++ interval 0x5B 0x60 ++ interval 0x7B 0x7E
  match Utf8.lossy name with
  | "alnum" => some (digits ++ upper ++ lower)
  | "alpha" => some (upper ++ lower)
  | "blank" => some [0x09, 0x20]
  | "cntrl" => some (interval 0 0x1F ++ [0x7F])
  | "digit" => some digits
  | "graph" => some (interval 0x21 0x7E)
  | "lower" => some lower
  | "print" => some (interval 0x20 0x7E)
  | "punct" => some signs
  | "space" => some (interval 0x09 0x0D ++ [0x20])
  | "upper" => some upper
  | "xdigit" => some (digits ++ interval 0x41 0x46 ++ interval 0x61 0x66)
  | _ => none

namespace Construct

/-- The bytes of a part, one that is repeated as often as needed `filling` times. -/
def members (filling : Nat) : Construct → Bytes
  | byte b => [b]
  | interval first last => Filter.interval first last
  | kind name => (kind? name).getD []
  | equivalents b => [b]
  | repeated b count? => List.replicate (count?.getD filling) b

/-- Whether it is repeated as often as needed. -/
def isOpen : Construct → Bool
  | repeated _ none => true
  | _ => false

def isKind : Construct → Bool
  | kind _ => true
  | _ => false

def isEquivalents : Construct → Bool
  | equivalents _ => true
  | _ => false

/-- Whether it is the kind of the letters of one case. -/
def isCase : Construct → Bool
  | kind name => name = Bytes.ofText "upper" || name = Bytes.ofText "lower"
  | _ => false

end Construct

/-- A byte as it is shown in a message. -/
def shownByte (b : UInt8) : Bytes :=
  match b with
  | 0x5C => Bytes.ofText "\\\\"
  | _ => if Naming.isPrinted b then [b] else Naming.escape b

/-- The text up to a sign before a closing bracket, if there is one. -/
def upToClosing (sign : UInt8) : List SetByte → Option Bytes
  | (a, false) :: (b, false) :: rest =>
    if a = sign && b = 0x5D then some []
    else (upToClosing sign ((b, false) :: rest)).map (a :: ·)
  | (a, _) :: rest => (upToClosing sign rest).map (a :: ·)
  | [] => none

/-- The repetition after an opening bracket: the byte, how often it comes and the number of bytes
that this takes. -/
def repetition? : List SetByte → Except Bytes (Option (UInt8 × Option Nat × Nat))
  | (b, _) :: (0x2A, false) :: rest =>
    let inner := rest.takeWhile fun (c, isEscaped) => c ≠ 0x5D && !isEscaped
    match rest.drop inner.length with
    | (0x5D, false) :: _ =>
      let figures := inner.map Prod.fst
      let size := inner.length + 3
      if figures.isEmpty then .ok (some (b, none, size))
      else if figures.head? = some 0x30 && figures.all isOctal then
        let count := octalValue figures
        .ok (some (b, if count = 0 then none else some count, size))
      else
        match number? figures with
        | some count => .ok (some (b, if count = 0 then none else some count, size))
        | none =>
          .error (OptionForm.about "invalid repeat count" figures " in [c*n] construct")
    | _ => .ok none
  | _ => .ok none

/-- The parts of a set, the next `passed` bytes having been dealt with. -/
def constructsFrom (passed : Nat) : List SetByte → Except Bytes (List Construct)
  | [] => .ok []
  | (b, isEscaped) :: rest =>
    match passed with
    | more + 1 => constructsFrom more rest
    | 0 =>
      let opens := b = 0x5B && !isEscaped && 2 ≤ rest.length
      let sign? := match rest with
        | (sign, false) :: _ =>
          if opens && (sign = 0x3A || sign = 0x3D) then some sign else none
        | _ => none
      let inner? := sign?.bind fun sign => (upToClosing sign rest.tail).map (sign, ·)
      let named : Except Bytes (Option (Construct × Nat)) :=
        match inner? with
        | none => .ok none
        | some (sign, name) =>
          let found := some (name.length + 3)
          let isRepetition : Bool := match rest with
            | _ :: (0x2A, false) :: others =>
              (others.dropWhile fun (c, _) => isDigit c).head? == some (0x5D, false)
            | _ => false
          if name.isEmpty then
            .error (Bytes.ofText (if sign = 0x3A then "missing character class name '[::]'"
              else "missing equivalence class character '[==]'"))
          else if sign = 0x3A then
            if (kind? name).isSome then .ok (found.map (Construct.kind name, ·))
            else if isRepetition then .ok none
            else
              .error (OptionForm.about "invalid character class" (name.flatMap shownByte))
          else
            match name with
            | [c] => .ok (found.map (Construct.equivalents c, ·))
            | _ =>
              if isRepetition then .ok none
              else .error (name.flatMap shownByte
                ++ Bytes.ofText ": equivalence class operand must be a single character")
      match named with
      | .error text => .error text
      | .ok (some (construct, size)) => (constructsFrom size rest).map (construct :: ·)
      | .ok none =>
        match if opens then repetition? rest else .ok none with
        | .error text => .error text
        | .ok (some (c, count?, size)) =>
          (constructsFrom size rest).map (Construct.repeated c count? :: ·)
        | .ok none =>
          match rest with
          | (0x2D, false) :: (last, _) :: _ =>
            if last < b then
              .error (OptionForm.about "range-endpoints of"
                (shownByte b ++ [0x2D] ++ shownByte last)
                " are in reverse collating sequence order")
            else (constructsFrom 2 rest).map (Construct.interval b last :: ·)
          | _ => (constructsFrom 0 rest).map (Construct.byte b :: ·)

/-- The parts of a set. -/
def constructs (text : Bytes) : Except Bytes (List Construct) := constructsFrom 0 (unescape 0 text)

/-- The bytes of a set. -/
def membersOf (filling : Nat) (set : List Construct) : Bytes := set.flatMap (·.members filling)

/-! ## What is done -/

/-- The bytes that are not in a set. -/
def others (set : Bytes) : Bytes := (interval 0 255).filter fun b => !set.contains b

/-- A content without repetitions of the members of a set. -/
def squeeze (set : Bytes) (previous : Option UInt8) : Bytes → Bytes
  | [] => []
  | b :: rest =>
    if previous = some b && set.contains b then squeeze set previous rest
    else b :: squeeze set (some b) rest

/-- What the bytes turn into: the members of one set into those of another.  The last of several
rules for one byte holds. -/
def exchangeTable (first second : Bytes) : Array UInt8 :=
  (first.zip second).foldl (fun table (b, other) => table.set! b.toNat other)
    (interval 0 255).toArray

/-- Where the kinds of letters of one case in a set begin, each with the number of bytes before. -/
def casesAt (filling : Nat) (before : Nat) : List Construct → List Nat
  | [] => []
  | construct :: rest =>
    (if construct.isCase then [before] else [])
      ++ casesAt filling (before + (construct.members filling).length) rest

/-- What is wrong with two sets of which one is to turn into the other. -/
def exchangeFault? (complement truncate : Bool) (first second : List Construct) (source : Bytes)
    (filling : Nat) : Option String :=
  let target := membersOf filling second
  if second.any (·.isEquivalents) then
    some "[=c=] expressions may not appear in string2 when translating"
  else if second.any fun construct => construct.isKind && !construct.isCase then
    some ("when translating, the only character classes that may appear in\n"
      ++ "string2 are 'upper' and 'lower'")
  else if !complement && (casesAt filling 0 second).any fun place =>
      !(casesAt 0 0 first).contains place then
    some "misaligned [:upper:] and/or [:lower:] construct"
  else if target.length < source.length && !truncate && target.isEmpty then
    some "when not truncating set1, string2 must be non-empty"
  else if target.length < source.length && !truncate && second.getLast?.any (·.isKind) then
    some ("when translating with string1 longer than string2,\n"
      ++ "the latter string must not end with a character class")
  else if complement && first.any (·.isKind) && 1 < target.eraseDups.length then
    some ("when translating with complemented character classes,\n"
      ++ "string2 must map all characters in the domain to one")
  else none

/-- The options for exchanging bytes. -/
def trForms : List OptionForm :=
  [⟨'c', "complement", false⟩, ⟨'C', "", false⟩, ⟨'d', "delete", false⟩,
    ⟨'s', "squeeze-repeats", false⟩, ⟨'t', "truncate-set1", false⟩]

/-- What is wrong with the number of sets. -/
def operandFault? (deletes squeezes : Bool) : List Bytes → Option Bytes
  | [] => some (Bytes.ofText "missing operand")
  | [set] =>
    if deletes != squeezes then none
    else some (OptionForm.about "missing operand after" set
      (if squeezes then "\nTwo strings must be given when both deleting and squeezing repeats."
        else "\nTwo strings must be given when translating."))
  | [_, second] =>
    if deletes && !squeezes then
      some (OptionForm.about "extra operand" second
        "\nOnly one string may be given when deleting without squeezing repeats.")
    else none
  | _ :: second :: third :: _ =>
    some (OptionForm.about "extra operand" (if deletes && !squeezes then second else third))

/-- Exchange bytes of one set for those of another one. -/
def exchange (call : Call) (complement truncate squeezes : Bool) (first second : List Construct) :
    Outcome :=
  let plain := membersOf 0 first
  let source := if complement then others plain else plain
  let filling := source.length - (membersOf 0 second).length
  match exchangeFault? complement truncate first second source filling with
  | some text => call.fail (Bytes.ofText text)
  | none =>
    let target := membersOf filling second
    let missing := if truncate then 0 else source.length - target.length
    let full := target ++ List.replicate missing (target.getLast?.getD 0)
    let table := exchangeTable source full
    let moved := call.input.map fun b => table[b.toNat]?.getD b
    .ofOutput (if squeezes then squeeze full none moved else moved)

/-- Exchange, delete or squeeze bytes. -/
def tr (call : Call) : Outcome :=
  match OptionForm.parse trForms call.args false with
  | .error text => call.refuse text
  | .ok given =>
    let complement := given.has 'c' || given.has 'C'
    let deletes := given.has 'd'
    let squeezes := given.has 's'
    match operandFault? deletes squeezes given.operands with
    | some text => call.refuse text
    | none =>
      match given.operands.mapM constructs with
      | .error text => call.fail text
      | .ok sets =>
        let first := sets.headD []
        let second? := sets[1]?
        if first.any (·.isOpen) then
          call.fail (Bytes.ofText "the [c*] repeat construct may not appear in string1")
        else if second?.any fun second => 1 < (second.filter (·.isOpen)).length then
          call.fail (Bytes.ofText "only one [c*] repeat construct may appear in string2")
        else
          let plain := membersOf 0 first
          let source := if complement then others plain else plain
          match second? with
          | some second =>
            if !deletes then exchange call complement (given.has 't') squeezes first second
            else if second.any (·.isOpen) then
              call.fail
                (Bytes.ofText "the [c*] construct may appear in string2 only when translating")
            else
              .ofOutput (squeeze (membersOf 0 second) none
                (call.input.filter fun b => !source.contains b))
          | none =>
            if deletes then .ofOutput (call.input.filter fun b => !source.contains b)
            else .ofOutput (squeeze source none call.input)

end Emend.Host.Filter
