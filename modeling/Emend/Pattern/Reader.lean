/-
# Reading patterns

`Tree.parse` reads a pattern.  It goes over the text once, keeping the groups that are still open
on a stack; inside a class, the brackets that are still open are kept on a stack of their own.
Every step of the two loops uses up at least one character, so the number of characters left bounds
the number of steps.
-/

import Emend.Pattern.Tree
import Emend.Unicode.Property

namespace Emend.Pattern

open Unicode

/-! ## The text still to be read -/

/-- What is left of a pattern, and the state that reading depends on. -/
structure Reader where
  /-- The characters not read yet. -/
  rest : List Char
  /-- The position of the first of them. -/
  position : Position := {}
  /-- Whether blanks and comments are passed over. -/
  ignoreBlanks : Bool := false
  /-- The number of groups so far whose text is kept. -/
  captures : Nat := 0
  /-- The names of groups so far. -/
  names : List (String × Span) := []

/-- A step of reading. -/
abbrev Read (α : Type) := StateT Reader (Except Fault) α

namespace Read

/-- Break off. -/
def fail {α : Type} (kind : FaultKind) (span : Span) (first : Option Span := none) : Read α :=
  throw { kind, span, first }

/-- The next character. -/
def peek : Read (Option Char) := return (← get).rest.head?

/-- The position of the next character. -/
def position : Read Position := return (← get).position

/-- The stretch of the next character; empty at the end. -/
def charSpan : Read Span := do
  let reader ← get
  match reader.rest with
  | c :: _ => return Span.ofChar reader.position c
  | [] => return Span.at reader.position

/-- Pass over one character. -/
def bump : Read Unit := modify fun reader =>
  match reader.rest with
  | c :: rest => { reader with rest, position := reader.position.after c }
  | [] => reader

/-- Pass over the given characters if they come next. -/
def bumpIf (chars : List Char) : Read Bool := do
  if chars.isPrefixOf (← get).rest then
    chars.forM fun _ => bump
    return true
  else return false

/-- What is left after blanks and comments.  `inComment` tells whether reading stands in a
comment, which ends with its line. -/
def skipBlanks (inComment : Bool) (position : Position) : List Char → List Char × Position
  | [] => ([], position)
  | c :: rest =>
    if inComment then skipBlanks (c ≠ '\n') (position.after c) rest
    else if Property.isWhiteSpace c then skipBlanks false (position.after c) rest
    else if c = '#' then skipBlanks true (position.after c) rest
    else (c :: rest, position)

/-- Pass over blanks and comments where they do not count. -/
def bumpBlanks : Read Unit := modify fun reader =>
  if reader.ignoreBlanks then
    let (rest, position) := skipBlanks false reader.position reader.rest
    { reader with rest, position }
  else reader

/-- Pass over one character and the blanks that do not count; the character after them. -/
def next : Read (Option Char) := do
  bump
  bumpBlanks
  peek

/-- Pass over white space, whether or not it counts. -/
def skipSpaces : Nat → Read Unit
  | 0 => return ()
  | fuel + 1 => do
    match ← peek with
    | some c => if Property.isWhiteSpace c then do bump; skipSpaces fuel
    | none => return ()

/-- The first character that is neither a blank nor the sign of a comment; after that sign line
breaks are blanks too. -/
def firstSolid : List Char → Option Char
  | [] => none
  | c :: rest =>
    if Property.isWhiteSpace c then firstSolid rest
    else if c = '#' then rest.find? fun d => !Property.isWhiteSpace d
    else some c

/-- The character after the next and the blanks after it that do not count. -/
def peekSolid : Read (Option Char) := do
  let reader ← get
  let after := reader.rest.drop 1
  if reader.ignoreBlanks then
    match firstSolid after with
    | some c => return some c
    | none => return after.head?
  else return after.head?

end Read

open Read

/-! ## Characters -/

/-- Characters with a meaning of their own, which a backslash takes away. -/
def isMeta (c : Char) : Bool :=
  c ∈ ['\\', '.', '+', '*', '?', '(', ')', '|', '[', ']', '\x7b', '\x7d', '^', '$', '#', '&', '-',
    '~']

/-- Characters that a backslash leaves as they are. -/
def isEscapable (c : Char) : Bool :=
  isMeta c || (c.toNat < 0x80 && !c.isAlphanum && c ≠ '<' && c ≠ '>')

/-- The value of a hexadecimal digit. -/
def hexValue? (c : Char) : Option Nat :=
  if '0' ≤ c ∧ c ≤ '9' then some (c.toNat - '0'.toNat)
  else if 'a' ≤ c ∧ c ≤ 'f' then some (c.toNat - 'a'.toNat + 10)
  else if 'A' ≤ c ∧ c ≤ 'F' then some (c.toNat - 'A'.toNat + 10)
  else none

/-- The character with a number, if the number is that of a character. -/
def scalarOfNat? (n : Nat) : Option Char :=
  if n.isValidChar then some (Char.ofNat n) else none

/-! ## Escapes -/

/-- What an escape, or a character outside brackets, stands for. -/
inductive Atom where
  | literal (lit : Literal)
  | assertion (span : Span) (kind : Assertion)
  | dot (span : Span)
  | escape (span : Span) (negated : Bool) (kind : ClassEscape)

/-- The place of an atom. -/
def Atom.span : Atom → Span
  | .literal lit => lit.span
  | .assertion span _ => span
  | .dot span => span
  | .escape span .. => span

/-- An atom as a part of a pattern. -/
def Atom.toTree : Atom → Tree
  | .literal lit => .literal lit
  | .assertion span kind => .assertion span kind
  | .dot span => .dot span
  | .escape span negated kind => .escape span negated kind

/-- An atom as a part of a class. -/
def Atom.toClass : Atom → Read ClassSet
  | .literal lit => return .literal lit
  | .escape span negated kind => return .escape span negated kind
  | atom => fail .classEscapeInvalid atom.span

/-- An atom as an end of a range. -/
def Atom.toRangeEnd : Atom → Read Literal
  | .literal lit => return lit
  | atom => fail .classRangeLiteral atom.span

/-- Read `count` hexadecimal digits, the first of which comes next; `value` is what the digits
before are worth. -/
def readHexDigits (value : Nat) : Nat → Read Nat
  | 0 => return value
  | count + 1 => do
    match ← peek with
    | none => fail .escapeUnexpectedEnd (Span.at (← position))
    | some c =>
      match hexValue? c with
      | none => fail .escapeHexInvalidDigit (← charSpan)
      | some digit =>
        let _ ← next
        readHexDigits (value * 16 + digit) count

/-- Read hexadecimal digits up to a closing brace; the character before the next one to read is
still to be passed over.  The answer is the value of the digits, unless there are none. -/
def readHexUntilBrace (brace : Position) (value : Option Nat) : Nat → Read (Option Nat)
  | 0 => return value
  | fuel + 1 => do
    match ← next with
    | none => fail .escapeUnexpectedEnd ⟨brace, ← position⟩
    | some c =>
      if c = '\x7d' then return value
      else
        match hexValue? c with
        | none => fail .escapeHexInvalidDigit (← charSpan)
        | some digit => readHexUntilBrace brace (some (value.getD 0 * 16 + digit)) fuel

/-- Read the number of a character after the letter that announces it.  `start` is where the
escape starts and `digits` how many digits it has without braces. -/
def readHex (start : Position) (digits : Nat) : Read Literal := do
  match ← next with
  | none => fail .escapeUnexpectedEnd (Span.at (← position))
  | some '\x7b' =>
    let brace ← position
    let first := (← charSpan).stop
    let value ← readHexUntilBrace brace none ((← get).rest.length + 1)
    let stop ← position
    let _ ← next
    match value with
    | none => fail .escapeHexEmpty ⟨brace, ← position⟩
    | some n =>
      match scalarOfNat? n with
      | some char => return { span := ⟨start, ← position⟩, char }
      | none => fail .escapeHexInvalid ⟨first, stop⟩
  | some _ =>
    let first ← position
    let n ← readHexDigits 0 digits
    let stop ← position
    match scalarOfNat? n with
    | some char => return { span := ⟨start, stop⟩, char, isByte := digits = 2 }
    | none => fail .escapeHexInvalid ⟨first, stop⟩

/-- Read a name up to a closing brace; `name` is what came before, in reverse. -/
def readUntilBrace (name : List Char) : Nat → Read (List Char)
  | 0 => return name.reverse
  | fuel + 1 => do
    match ← next with
    | none => fail .escapeUnexpectedEnd (Span.at (← position))
    | some c => if c = '\x7d' then return name.reverse else readUntilBrace (c :: name) fuel

/-- The characters before and after the first place where `sign` stands. -/
def splitAtSign? (sign : List Char) (before : List Char) :
    List Char → Option (String × String)
  | [] => none
  | c :: rest =>
    if sign.isPrefixOf (c :: rest) then
      some (String.ofList before.reverse, String.ofList ((c :: rest).drop sign.length))
    else splitAtSign? sign (c :: before) rest

/-- The query written between braces, and whether it is to be negated. -/
def queryOf (name : List Char) : PropertyQuery × Bool :=
  match splitAtSign? ['!', '='] [] name with
  | some (property, value) => (.valued property value, true)
  | none =>
    match splitAtSign? [':'] [] name with
    | some (property, value) => (.valued property value, false)
    | none =>
      match splitAtSign? ['='] [] name with
      | some (property, value) => (.valued property value, false)
      | none => (.named (String.ofList name), false)

/-- Read a property class after the letter that announces it. -/
def readProperty (start : Position) (negated : Bool) : Read Atom := do
  match ← next with
  | none => fail .escapeUnexpectedEnd (Span.at (← position))
  | some '\x7b' =>
    let name ← readUntilBrace [] ((← get).rest.length + 1)
    bump
    let (query, opposite) := queryOf name
    return .escape ⟨start, ← position⟩ (negated != opposite) (.property query)
  | some '\\' => fail .unicodeClassInvalid (← charSpan)
  | some c =>
    let _ ← next
    return .escape ⟨start, ← position⟩ negated (.property (.named c.toString))

/-- Read the letters and hyphens of a name of a word boundary; `name` is what came before, in
reverse. -/
def readEdgeName (name : List Char) : Nat → Read (List Char)
  | 0 => return name.reverse
  | fuel + 1 => do
    match ← peek with
    | some c =>
      if c.isAlpha || c = '-' then do
        let _ ← next
        readEdgeName (c :: name) fuel
      else return name.reverse
    | none => return name.reverse

/-- Read the name of a word boundary in braces, if one follows.  Anything else in braces is left
to be read as a count. -/
def readEdge? (start : Position) : Read (Option WordEdge) := do
  let before ← get
  if before.rest.head? ≠ some '\x7b' then return none
  else
    match ← next with
    | none => fail .specialWordOrRepetitionUnexpectedEnd ⟨start, ← position⟩
    | some c =>
      if !(c.isAlpha || c = '-') then do
        set before
        return none
      else
        let first ← position
        let name ← readEdgeName [] ((← get).rest.length + 1)
        if (← peek) ≠ some '\x7d' then
          fail .specialWordBoundaryUnclosed ⟨before.position, ← position⟩
        else
          let stop ← position
          bump
          match String.ofList name with
          | "start" => return some .start
          | "end" => return some .stop
          | "start-half" => return some .startHalf
          | "end-half" => return some .stopHalf
          | _ => fail .specialWordBoundaryUnrecognized ⟨first, stop⟩

/-- The control characters that have a one-letter escape. -/
def controlOf? : Char → Option Char
  | 'a' => some '\x07'
  | 'f' => some '\x0c'
  | 't' => some '\t'
  | 'n' => some '\n'
  | 'r' => some '\r'
  | 'v' => some '\x0b'
  | _ => none

/-- Read an escape, of which the backslash comes next. -/
def readEscape : Read Atom := do
  let start ← position
  bump
  match ← peek with
  | none => fail .escapeUnexpectedEnd ⟨start, ← position⟩
  | some c =>
    if c.isDigit then fail .unsupportedBackreference ⟨start, (← charSpan).stop⟩
    else
      match c with
      | 'x' => return .literal (← readHex start 2)
      | 'u' => return .literal (← readHex start 4)
      | 'U' => return .literal (← readHex start 8)
      | 'p' => readProperty start false
      | 'P' => readProperty start true
      | _ =>
        bump
        let span : Span := ⟨start, ← position⟩
        if isEscapable c then return .literal { span, char := c }
        else
          match controlOf? c with
          | some char => return .literal { span, char }
          | none =>
            match c with
            | 'd' => return .escape span false (.shorthand .digit)
            | 's' => return .escape span false (.shorthand .space)
            | 'w' => return .escape span false (.shorthand .word)
            | 'D' => return .escape span true (.shorthand .digit)
            | 'S' => return .escape span true (.shorthand .space)
            | 'W' => return .escape span true (.shorthand .word)
            | 'A' => return .assertion span .textStart
            | 'z' => return .assertion span .textEnd
            | 'b' =>
              match ← readEdge? start with
              | some edge => return .assertion ⟨start, ← position⟩ (.word edge)
              | none => return .assertion span (.word .either)
            | 'B' => return .assertion span (.word .neither)
            | '<' => return .assertion span (.word .start)
            | '>' => return .assertion span (.word .stop)
            | _ => fail .escapeUnrecognized span

/-- Read a character that is not the sign of a group, a class, an alternation or a repetition. -/
def readAtom : Read Atom := do
  match ← peek with
  | some '\\' => readEscape
  | some c =>
    let span ← charSpan
    bump
    match c with
    | '.' => return .dot span
    | '^' => return .assertion span .lineStart
    | '$' => return .assertion span .lineEnd
    | _ => return .literal { span, char := c }
  | none => return .dot (← charSpan)

/-! ## Classes -/

/-- Brackets that are still open, and operations whose right side is still open. -/
inductive ClassFrame where
  /-- Brackets, with what stands before them in the class around them, in reverse. -/
  | bracket (before : List ClassSet) (outer : Position) (span : Span) (negated : Bool)
  /-- An operation, with its left side. -/
  | operation (operator : ClassOperator) (left : ClassSet)

/-- The class under way: where its items start, and the items in reverse. -/
structure ClassItems where
  start : Position
  items : List ClassSet

/-- The items as one class. -/
def ClassItems.close (items : ClassItems) : ClassSet :=
  let stop := (items.items.head?.map (·.span.stop)).getD items.start
  let start := (items.items.getLast?.map (·.span.start)).getD items.start
  .ofUnion ⟨start, stop⟩ items.items.reverse

/-- The innermost brackets still open. -/
def innermost? : List ClassFrame → Option Span
  | [] => none
  | .bracket _ _ span _ :: _ => some span
  | .operation .. :: rest => innermost? rest

/-- Break off for want of a closing bracket. -/
def failUnclosed {α : Type} (frames : List ClassFrame) : Read α := do
  fail .classUnclosed ((innermost? frames).getD (Span.at (← position)))

/-- Finish the operation on top of the stack, if there is one. -/
def foldOperation (right : ClassSet) : List ClassFrame → ClassSet × List ClassFrame
  | .operation operator left :: rest =>
    (.operation ⟨left.span.start, right.span.stop⟩ operator left right, rest)
  | frames => (right, frames)

/-- Read one part of a class: an escape or a character. -/
def readClassAtom : Read Atom := do
  match ← peek with
  | some '\\' => readEscape
  | some c =>
    let span ← charSpan
    bump
    return .literal { span, char := c }
  | none => return .dot (← charSpan)

/-- Read a part of a class or, with a hyphen after it, a range. -/
def readClassRange (frames : List ClassFrame) : Read ClassSet := do
  let first ← readClassAtom
  bumpBlanks
  match ← peek with
  | none => failUnclosed frames
  | some c =>
    let after ← peekSolid
    if c ≠ '-' || after = some ']' || after = some '-' then first.toClass
    else
      match ← next with
      | none => failUnclosed frames
      | some _ =>
        let last ← readClassAtom
        let span : Span := ⟨first.span.start, last.span.stop⟩
        let first ← first.toRangeEnd
        let last ← last.toRangeEnd
        if first.char ≤ last.char then return .range span first last
        else fail .classRangeInvalid span

/-- Read hyphens at the start of a class, which stand for themselves.  `items` holds those read so
far, in reverse. -/
def readHyphens (start : Position) (items : List ClassSet) : Nat → Read (List ClassSet)
  | 0 => return items
  | fuel + 1 => do
    if (← peek) = some '-' then
      let span ← charSpan
      let items := .literal { span, char := '-' } :: items
      match ← next with
      | none => fail .classUnclosed (Span.at start)
      | some _ => readHyphens start items fuel
    else return items

/-- Read an opening bracket with what may follow it only there: the sign of negation, hyphens and
a closing bracket, the last two of which stand for themselves. -/
def readClassOpen (before : ClassItems) : Read (ClassFrame × ClassItems) := do
  let start ← position
  match ← next with
  | none => fail .classUnclosed ⟨start, ← position⟩
  | some c =>
    let negated := c = '^'
    if negated then
      if (← next).isNone then fail .classUnclosed ⟨start, ← position⟩
    let itemsStart ← position
    let items ← readHyphens start [] ((← get).rest.length + 1)
    if items.isEmpty && (← peek) = some ']' then
      let span ← charSpan
      match ← next with
      | none => fail .classUnclosed ⟨start, ← position⟩
      | some _ =>
        return (.bracket before.items before.start ⟨start, ← position⟩ negated,
          ⟨itemsStart, [.literal { span, char := ']' }]⟩)
    else
      return (.bracket before.items before.start ⟨start, ← position⟩ negated, ⟨itemsStart, items⟩)

/-- Read a named ASCII class, if one follows; otherwise nothing is read. -/
def readAsciiClass? : Read (Option ClassSet) := do
  let before ← get
  match before.rest with
  | '[' :: ':' :: rest =>
    let (negated, rest) : Bool × List Char := match rest with
      | '^' :: rest => (true, rest)
      | _ => (false, rest)
    let name := rest.takeWhile (· ≠ ':')
    match rest.dropWhile (· ≠ ':') with
    | ':' :: ']' :: _ =>
      match AsciiClass.named? (String.ofList name) with
      | some kind =>
        let length := 2 + (if negated then 1 else 0) + name.length + 2
        (before.rest.take length).forM fun _ => bump
        return some (.ascii ⟨before.position, ← position⟩ negated kind)
      | none => return none
    | _ => return none
  | _ => return none

/-- The operation whose sign, a doubled character, comes next. -/
def operatorAt? : List Char → Option ClassOperator
  | '&' :: '&' :: _ => some .intersection
  | '-' :: '-' :: _ => some .difference
  | '~' :: '~' :: _ => some .symmetricDifference
  | _ => none

/-- Read the rest of a class.  `frames` are the brackets and operations still open, the innermost
first, and `items` what has been read inside the innermost. -/
def readClassFrom (frames : List ClassFrame) (items : ClassItems) : Nat → Read Tree
  | 0 => failUnclosed frames
  | fuel + 1 => do
    bumpBlanks
    match ← peek with
    | none => failUnclosed frames
    | some '[' =>
      let ascii ← if frames.isEmpty then pure none else readAsciiClass?
      match ascii with
      | some set => readClassFrom frames { items with items := set :: items.items } fuel
      | none =>
        let (frame, items) ← readClassOpen items
        readClassFrom (frame :: frames) items fuel
    | some ']' =>
      let (inner, frames) := foldOperation items.close frames
      bump
      match frames with
      | .bracket before outer span negated :: rest =>
        let span : Span := ⟨span.start, ← position⟩
        if rest.isEmpty then return .bracketed span negated inner
        else readClassFrom rest ⟨outer, .bracketed span negated inner :: before⟩ fuel
      | frames => failUnclosed frames
    | some _ =>
      match operatorAt? (← get).rest with
      | some operator =>
        let (left, frames) := foldOperation items.close frames
        bump
        bump
        readClassFrom (.operation operator left :: frames) ⟨← position, []⟩ fuel
      | none =>
        let item ← readClassRange frames
        readClassFrom frames { items with items := item :: items.items } fuel

/-- Read a class, of which the opening bracket comes next. -/
def readClass : Read Tree := do
  readClassFrom [] ⟨← position, []⟩ ((← get).rest.length + 1)

/-! ## Groups -/

/-- Whether a character may stand in the name of a group, at its start or later. -/
def isNameChar (c : Char) (atStart : Bool) : Bool :=
  if atStart then c = '_' || Property.isAlphabetic c
  else c = '_' || c = '.' || c = '[' || c = ']' || Property.isAlphanumeric c

/-- Read the name of a group up to the closing angle; `name` is what came before, in reverse. -/
def readNameFrom (name : List Char) : Nat → Read (List Char)
  | 0 => return name.reverse
  | fuel + 1 => do
    match ← peek with
    | none => return name.reverse
    | some c =>
      if c = '>' then return name.reverse
      else if isNameChar c name.isEmpty then do
        bump
        readNameFrom (c :: name) fuel
      else fail .groupNameInvalid (← charSpan)

/-- Read the name of a group with the closing angle. -/
def readName : Read String := do
  let start ← position
  let name ← readNameFrom [] ((← get).rest.length + 1)
  let stop ← position
  if (← peek).isNone then fail .groupNameUnexpectedEnd (Span.at stop)
  else
    bump
    if name.isEmpty then fail .groupNameEmpty (Span.at start)
    else
      let name := String.ofList name
      let span : Span := ⟨start, stop⟩
      match (← get).names.lookup name with
      | some first => fail .groupNameDuplicate span (some first)
      | none =>
        modify fun reader => { reader with names := (name, span) :: reader.names }
        return name

/-- The flags read so far, with their places, and the place of the sign of negation. -/
structure FlagItems where
  flags : List (Flag × Bool × Span) := []
  negation : Option Span := none

/-- Read flags up to a colon or a closing parenthesis.  `dangling` holds the place of a sign of
negation after which no flag has come yet. -/
def readFlagsFrom (items : FlagItems) (dangling : Option Span) : Nat → Read Flags
  | 0 => return []
  | fuel + 1 => do
    match ← peek with
    | none => fail .flagUnexpectedEnd (Span.at (← position))
    | some c =>
      if c = ':' || c = ')' then
        match dangling with
        | some span => fail .flagDanglingNegation span
        | none => return items.flags.reverse.map fun (flag, on, _) => (flag, on)
      else
        let span ← charSpan
        let (items, dangling) ←
          if c = '-' then
            match items.negation with
            | some first => fail .flagRepeatedNegation span (some first)
            | none => pure ({ items with negation := some span }, some span)
          else
            match Flag.ofLetter? c with
            | none => fail .flagUnrecognized span
            | some flag =>
              match items.flags.lookup flag with
              | some (_, first) => fail .flagDuplicate span (some first)
              | none =>
                pure ({ items with
                  flags := (flag, items.negation.isNone, span) :: items.flags }, none)
        bump
        if (← peek).isNone then fail .flagUnexpectedEnd (Span.at (← position))
        else readFlagsFrom items dangling fuel

/-- What an opening parenthesis starts. -/
inductive Opening where
  /-- A group. -/
  | group (kind : GroupKind)
  /-- No group, but flags for the rest of the one around it. -/
  | flags (span : Span) (flags : Flags)

/-- The number of the next group whose text is kept. -/
def nextCapture : Read Nat := do
  let index := (← get).captures + 1
  modify fun reader => { reader with captures := index }
  return index

/-- Read an opening parenthesis with what belongs to it; the place of the parenthesis is given. -/
def readOpening (paren : Span) : Read Opening := do
  bump
  bumpBlanks
  if (← bumpIf ['?', '=']) || (← bumpIf ['?', '!']) || (← bumpIf ['?', '<', '='])
      || (← bumpIf ['?', '<', '!']) then
    fail .unsupportedLookAround ⟨paren.start, ← position⟩
  else
    let inner ← position
    if (← bumpIf ['?', 'P', '<']) || (← bumpIf ['?', '<']) then
      let index ← nextCapture
      if (← peek).isNone then fail .groupNameUnexpectedEnd (Span.at (← position))
      else return .group (.capture index (some (← readName)))
    else if ← bumpIf ['?'] then
      if (← peek).isNone then fail .groupUnclosed paren
      else
        let flags ← readFlagsFrom {} none ((← get).rest.length + 1)
        let last ← peek
        bump
        if last = some ')' then
          if flags.isEmpty then fail .repetitionMissing (Span.at inner)
          else return .flags ⟨paren.start, ← position⟩ flags
        else return .group (.plain flags)
    else return .group (.capture (← nextCapture) none)

/-! ## Repetitions -/

/-- Read digits, passing over blanks that do not count; `value` is what the digits before are
worth. -/
def readDigits (value : Option Nat) : Nat → Read (Option Nat)
  | 0 => return value
  | fuel + 1 => do
    match ← peek with
    | some c =>
      if c.isDigit then do
        let _ ← next
        readDigits (some (value.getD 0 * 10 + (c.toNat - '0'.toNat))) fuel
      else return value
    | none => return value

/-- The greatest count that can be written. -/
def maxCount : Nat := 1 <<< 32 - 1

/-- Read a decimal count with the white space around it.  A missing or excessive count is not
raised at once: a missing bracket counts for more. -/
def readCount : Read (Except Fault Nat) := do
  let fuel := (← get).rest.length + 1
  skipSpaces fuel
  let start ← position
  let value ← readDigits none fuel
  let span : Span := ⟨start, ← position⟩
  skipSpaces fuel
  match value with
  | none => return .error { kind := .repetitionCountDecimalEmpty, span }
  | some n =>
    if n ≤ maxCount then return .ok n else return .error { kind := .decimalInvalid, span }

/-- The part that a sign of repetition at the next character applies to, and what stands before
it. -/
def repeated (parts : List Tree) : Read (Tree × List Tree) := do
  match parts with
  | [] => fail .repetitionMissing (Span.at (← position))
  | .empty _ :: _ => fail .repetitionMissing (Span.at (← position))
  | .flags .. :: _ => fail .repetitionMissing (Span.at (← position))
  | part :: before => return (part, before)

/-- Read a one-character sign of repetition; `parts` are the parts before it, in reverse. -/
def readSign (parts : List Tree) (least : Nat) (most : Option Nat) : Read (List Tree) := do
  let (part, before) ← repeated parts
  bump
  let greedy := (← peek) ≠ some '?'
  if !greedy then bump
  return .repetition ⟨part.span.start, ← position⟩ least most greedy part :: before

/-- Read a repetition with counts in braces; `parts` are the parts before it, in reverse. -/
def readCounted (parts : List Tree) : Read (List Tree) := do
  let start ← position
  let (part, before) ← repeated parts
  if (← next).isNone then fail .repetitionCountUnclosed ⟨start, ← position⟩
  else
    let least ← readCount
    match ← peek with
    | none => fail .repetitionCountUnclosed ⟨start, ← position⟩
    | some c =>
      let (least, most) ←
        if c = ',' then
          match ← next with
          | none => fail .repetitionCountUnclosed ⟨start, ← position⟩
          | some d =>
            let least ← liftExcept least
            if d = '\x7d' then pure (least, none)
            else pure (least, some (← liftExcept (← readCount)))
        else
          let least ← liftExcept least
          pure (least, some least)
      if (← peek) ≠ some '\x7d' then fail .repetitionCountUnclosed ⟨start, ← position⟩
      else
        let greedy := (← next) ≠ some '?'
        if !greedy then bump
        if most.all (least ≤ ·) then
          return .repetition ⟨part.span.start, ← position⟩ least most greedy part :: before
        else fail .repetitionCountInvalid ⟨start, ← position⟩
where
  /-- Raise a fault that was put off. -/
  liftExcept {α : Type} : Except Fault α → Read α
    | .ok a => return a
    | .error fault => throw fault

/-! ## The whole pattern -/

/-- The parts of the branch under way: where it starts, and the parts in reverse. -/
structure Branch where
  start : Position
  parts : List Tree

/-- The branch as one part, which ends at a position. -/
def Branch.close (branch : Branch) (stop : Position) : Tree :=
  .ofSequence ⟨branch.start, stop⟩ branch.parts.reverse

/-- The branches of the group under way: where the first starts, the finished ones in reverse, and
the one under way. -/
structure Branches where
  start : Position
  done : List Tree
  current : Branch

/-- A group without anything in it yet. -/
def Branches.starting (start : Position) : Branches := ⟨start, [], ⟨start, []⟩⟩

/-- The branches as one part, which ends at a position. -/
def Branches.close (branches : Branches) (stop : Position) : Tree :=
  let last := branches.current.close stop
  match branches.done with
  | [] => last
  | done => .alternation ⟨branches.start, stop⟩ (last :: done).reverse

/-- Replace the parts of the branch under way. -/
def Branches.withParts (branches : Branches) (parts : List Tree) : Branches :=
  { branches with current := { branches.current with parts } }

/-- A group that is still open: what stands before it, its kind, the place of its parenthesis and
whether blanks count after it. -/
structure GroupFrame where
  before : Branches
  kind : GroupKind
  span : Span
  ignoreBlanks : Bool

/-- Read the rest of a pattern.  `frames` are the groups still open, the innermost first, and
`branches` what has been read inside the innermost. -/
def readFrom (frames : List GroupFrame) (branches : Branches) : Nat → Read Tree
  | 0 => do fail .groupUnclosed (Span.at (← position))
  | fuel + 1 => do
    bumpBlanks
    let parts := branches.current.parts
    match ← peek with
    | none =>
      match frames with
      | frame :: _ => fail .groupUnclosed frame.span
      | [] => return branches.close (← position)
    | some '(' =>
      let paren ← charSpan
      match ← readOpening paren with
      | .flags span flags =>
        match flags.lookup .ignoreBlanks with
        | some on => modify fun reader => { reader with ignoreBlanks := on }
        | none => pure ()
        readFrom frames (branches.withParts (.flags span flags :: parts)) fuel
      | .group kind =>
        let ignoreBlanks := (← get).ignoreBlanks
        match kind with
        | .plain flags =>
          match flags.lookup .ignoreBlanks with
          | some on => modify fun reader => { reader with ignoreBlanks := on }
          | none => pure ()
        | .capture .. => pure ()
        readFrom (⟨branches, kind, paren, ignoreBlanks⟩ :: frames)
          (.starting (← position)) fuel
    | some ')' =>
      match frames with
      | [] => fail .groupUnopened (← charSpan)
      | frame :: frames =>
        let inner := branches.close (← position)
        modify fun reader => { reader with ignoreBlanks := frame.ignoreBlanks }
        bump
        let group := Tree.group ⟨frame.span.start, ← position⟩ frame.kind inner
        let before := frame.before
        readFrom frames (before.withParts (group :: before.current.parts)) fuel
    | some '|' =>
      let branch := branches.current.close (← position)
      bump
      readFrom frames
        { branches with done := branch :: branches.done, current := ⟨← position, []⟩ } fuel
    | some '[' =>
      let part ← readClass
      readFrom frames (branches.withParts (part :: parts)) fuel
    | some '?' => readFrom frames (branches.withParts (← readSign parts 0 (some 1))) fuel
    | some '*' => readFrom frames (branches.withParts (← readSign parts 0 none)) fuel
    | some '+' => readFrom frames (branches.withParts (← readSign parts 1 none)) fuel
    | some '\x7b' => readFrom frames (branches.withParts (← readCounted parts)) fuel
    | some _ =>
      let atom ← readAtom
      readFrom frames (branches.withParts (atom.toTree :: parts)) fuel

/-- Read a pattern whole. -/
def Tree.parse (pattern : String) : Except Fault Tree := do
  let chars := pattern.toList
  let tree ← (readFrom [] (.starting {}) (chars.length + 1)).run' { rest := chars }
  match tree.tooDeep? 0 with
  | some span => throw { kind := .nestLimitExceeded, span }
  | none => return tree

end Emend.Pattern
