/-
# What a pattern means

`Tree.meaning` turns a pattern into a regular expression.  Flags hold from where they are set to
the end of the group around them, across the branches of an alternation.
-/

import Emend.Pattern.Choice
import Emend.Unicode.Property

namespace Emend.Pattern

open Unicode

/-- The switches that bear on the meaning of a pattern. -/
structure Mode where
  ignoreCase : Bool := false
  multiLine : Bool := false
  dotMatchesLineBreak : Bool := false
  swapGreed : Bool := false
  unicode : Bool := true
  carriageReturns : Bool := false
  /-- Whether only well-formed text may match. -/
  textOnly : Bool := false
  deriving Repr, DecidableEq

/-- The mode after one switch. -/
def Mode.set (mode : Mode) (flag : Flag) (on : Bool) : Mode :=
  match flag with
  | .ignoreCase => { mode with ignoreCase := on }
  | .multiLine => { mode with multiLine := on }
  | .dotMatchesLineBreak => { mode with dotMatchesLineBreak := on }
  | .swapGreed => { mode with swapGreed := on }
  | .unicode => { mode with unicode := on }
  | .carriageReturns => { mode with carriageReturns := on }
  | .ignoreBlanks => mode

/-- The mode after several switches. -/
def Mode.apply (mode : Mode) (flags : Flags) : Mode :=
  flags.foldl (fun mode (flag, on) => mode.set flag on) mode

/-- The greatest member of a set of characters or, where Unicode is off, of bytes. -/
def Mode.greatest (mode : Mode) : Nat :=
  if mode.unicode then Ranges.maxScalar else Ranges.maxByte

/-- A set with the members of other case, as far as the mode knows them. -/
def Mode.foldCase (mode : Mode) (set : Ranges) : Ranges :=
  if !mode.ignoreCase then set
  else if mode.unicode then Property.foldCase set
  else
    let shifted (first last : Nat) (f : Nat → Nat) :=
      (Ranges.inter Ranges.maxByte set (.interval first last)).toList.map fun (a, b) => (f a, f b)
    Ranges.ofRanges <| set.toList ++ shifted 0x41 0x5A (· + 0x20) ++ shifted 0x61 0x7A (· - 0x20)

/-- The complement of a set, if it is negated. -/
def Mode.negate (mode : Mode) (negated : Bool) (set : Ranges) : Ranges :=
  if negated then set.complement mode.greatest else set

/-- A set of characters or bytes, given where it stands; where only text may match, the bytes have
to be ASCII characters. -/
def Mode.check (mode : Mode) (span : Span) (set : Ranges) : Except Fault Ranges :=
  if mode.textOnly && !mode.unicode && !isAsciiSet set then .error { kind := .illFormedText, span }
  else .ok set

/-- One member of a set of characters or, where Unicode is off, of bytes. -/
def Mode.oneOf (mode : Mode) (set : Ranges) : Expr :=
  if mode.unicode then .ofScalars set else .ofByteSet set

/-! ## Classes -/

/-- The characters of a named ASCII class. -/
def AsciiClass.set : AsciiClass → Ranges
  | .alnum => .ofTable "30-39 41-5A 61-7A"
  | .alpha => .ofTable "41-5A 61-7A"
  | .ascii => .ofTable "0-7F"
  | .blank => .ofTable "9 20"
  | .cntrl => .ofTable "0-1F 7F"
  | .digit => .ofTable "30-39"
  | .graph => .ofTable "21-7E"
  | .lower => .ofTable "61-7A"
  | .print => .ofTable "20-7E"
  | .punct => .ofTable "21-2F 3A-40 5B-60 7B-7E"
  | .space => .ofTable "9-D 20"
  | .upper => .ofTable "41-5A"
  | .word => .ofTable "30-39 41-5A 5F 61-7A"
  | .xdigit => .ofTable "30-39 41-46 61-66"

/-- The members of a one-letter class. -/
def Shorthand.set (unicode : Bool) : Shorthand → Ranges
  | .digit => if unicode then Property.decimal else AsciiClass.digit.set
  | .space => if unicode then Property.whiteSpace else AsciiClass.space.set
  | .word => if unicode then Property.word else AsciiClass.word.set

/-- The members of a class with an escape. -/
def ClassEscape.meaning (mode : Mode) (span : Span) (negated : Bool) :
    ClassEscape → Except Fault Ranges
  | .shorthand kind => mode.check span (mode.negate negated (kind.set mode.unicode))
  | .property query =>
    if !mode.unicode then .error { kind := .unicodeNotAllowed, span }
    else
      let answer := match query with
        | .named name => Property.named name
        | .valued name value => Property.valued name value
      match answer with
      | .ok set => .ok (mode.negate negated (mode.foldCase set))
      | .error .unknownProperty => .error { kind := .unicodePropertyNotFound, span }
      | .error .unknownValue => .error { kind := .unicodePropertyValueNotFound, span }

/-- The number that a character in a class stands for: a byte where Unicode is off. -/
def Literal.member (mode : Mode) (lit : Literal) : Except Fault Nat :=
  if mode.unicode || lit.isByte || lit.char.toNat < 0x80 then .ok lit.char.toNat
  else .error { kind := .unicodeNotAllowed, span := lit.span }

mutual

/-- The members of a class. -/
def ClassSet.meaning (mode : Mode) : ClassSet → Except Fault Ranges
  | .empty _ => .ok .empty
  | .literal lit => do return .single (← lit.member mode)
  | .range _ first last => do return .interval (← first.member mode) (← last.member mode)
  | .ascii span negated kind => mode.check span (mode.negate negated (mode.foldCase kind.set))
  | .escape span negated kind => kind.meaning mode span negated
  | .bracketed span negated inner => do
    mode.check span (mode.negate negated (mode.foldCase (← inner.meaning mode)))
  | .union _ items => do return .ofRanges (← ClassSet.meanings mode [] items)
  | .operation _ operator left right => do
    let left := mode.foldCase (← left.meaning mode)
    let right := mode.foldCase (← right.meaning mode)
    match operator with
    | .intersection => return left.inter mode.greatest right
    | .difference => return left.diff mode.greatest right
    | .symmetricDifference => return left.symmDiff mode.greatest right

/-- The ranges of several classes, after those of `done`. -/
def ClassSet.meanings (mode : Mode) (done : List (Nat × Nat)) :
    List ClassSet → Except Fault (List (Nat × Nat))
  | [] => .ok done
  | item :: items => do
    let set ← item.meaning mode
    ClassSet.meanings mode (set.toList ++ done) items

end

/-! ## Characters and conditions -/

/-- What a character in a pattern matches. -/
def Literal.meaning (mode : Mode) (lit : Literal) : Except Fault Expr :=
  if !mode.unicode && lit.isByte && 0x80 ≤ lit.char.toNat then do
    discard (mode.check lit.span (.single lit.char.toNat))
    return .literal [UInt8.ofNat lit.char.toNat]
  else
    let plain := Expr.literal (String.utf8EncodeChar lit.char)
    if !mode.ignoreCase then .ok plain
    else if !mode.unicode && 0x80 ≤ lit.char.toNat then .ok plain
    else .ok (mode.oneOf (mode.foldCase (.single lit.char.toNat)))

/-- What a dot matches. -/
def Mode.dot (mode : Mode) (span : Span) : Except Fault Expr := do
  let breaks : Ranges :=
    if mode.dotMatchesLineBreak then .empty
    else if mode.carriageReturns then .ofTable "A D"
    else .single 0xA
  return mode.oneOf (← mode.check span (breaks.complement mode.greatest))

/-- What an assertion asks for. -/
def Assertion.meaning (mode : Mode) : Assertion → Look
  | .lineStart => if mode.multiLine then .lineStart mode.carriageReturns else .textStart
  | .lineEnd => if mode.multiLine then .lineEnd mode.carriageReturns else .textEnd
  | .textStart => .textStart
  | .textEnd => .textEnd
  | .word edge => .word mode.unicode edge

/-! ## Patterns -/

mutual

/-- The meaning of a part of a pattern, with the mode for what follows it in its group. -/
def Tree.meaningIn (mode : Mode) : Tree → Except Fault (Expr × Mode)
  | .empty _ => .ok (.empty, mode)
  | .flags _ switches => .ok (.empty, mode.apply switches)
  | .literal lit => do return (← lit.meaning mode, mode)
  | .dot span => do return (← mode.dot span, mode)
  | .assertion _ kind => .ok (.look (kind.meaning mode), mode)
  | .escape span negated kind => do
    return (mode.oneOf (← kind.meaning mode span negated), mode)
  | .bracketed span negated inner => do
    let set ← inner.meaning mode
    return (mode.oneOf (← mode.check span (mode.negate negated (mode.foldCase set))), mode)
  | .repetition _ least most greedy part => do
    let (part, mode) ← part.meaningIn mode
    return (.repeated least most (greedy != mode.swapGreed) part, mode)
  | .group _ kind part => do
    match kind with
    | .capture index _ =>
      let (part, _) ← part.meaningIn mode
      return (.capture index part, mode)
    | .plain switches =>
      let (part, _) ← part.meaningIn (mode.apply switches)
      return (part, mode)
  | .alternation _ parts => do
    let (branches, mode) ← Tree.meaningsIn mode [] parts
    return (.ofBranches branches.reverse, mode)
  | .sequence _ parts => do
    let (exprs, mode) ← Tree.meaningsIn mode [] parts
    return (.ofReverse exprs, mode)

/-- The meanings of several parts, in reverse and before those of `done`. -/
def Tree.meaningsIn (mode : Mode) (done : List Expr) :
    List Tree → Except Fault (List Expr × Mode)
  | [] => .ok (done, mode)
  | part :: parts => do
    let (expr, mode) ← part.meaningIn mode
    Tree.meaningsIn mode (expr :: done) parts

end

/-- The meaning of a whole pattern. -/
def Tree.meaning (tree : Tree) : Except Fault Expr := do
  return (← tree.meaningIn {}).1

/-- The meaning of a whole pattern of which no match may be anything but text. -/
def Tree.textMeaning (tree : Tree) : Except Fault Expr := do
  return (← tree.meaningIn { textOnly := true }).1

/-! ## Group names -/

mutual

/-- The names of groups, with their numbers. -/
def Tree.groupNames : Tree → List (String × Nat)
  | .repetition _ _ _ _ part => part.groupNames
  | .group _ kind part =>
    match kind with
    | .capture index (some name) => (name, index) :: part.groupNames
    | _ => part.groupNames
  | .alternation _ parts => Tree.allGroupNames [] parts
  | .sequence _ parts => Tree.allGroupNames [] parts
  | _ => []

/-- The names of groups in several parts, after those of `done`. -/
def Tree.allGroupNames (done : List (String × Nat)) : List Tree → List (String × Nat)
  | [] => done
  | part :: parts => Tree.allGroupNames (done ++ part.groupNames) parts

end

end Emend.Pattern
