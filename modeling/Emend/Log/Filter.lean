/-
# Which events are written

A log filter is a list of directives, each with a level for the events of some part of the program.
Of the directives that an event falls under, the most specific one decides.

A directive is written `origin[span{field}]=level`, and each part may be missing; a lone word is a
level if it names one and an origin otherwise.
-/

import Emend.Log.Event
import Emend.Number.Reading
import Emend.Pattern.Meaning
import Emend.Pattern.Reader
import Emend.Unicode.Property

namespace Emend

open Unicode

/-- A part of a log filter. -/
structure Directive where
  /-- What the names of the origins begin with; `none` for all origins. -/
  origin : Option (List Char) := none
  /-- The names of values that go with the events. -/
  fields : List (List Char) := []
  /-- Whether it is only about what happens in some span or with some value, which no event of this
  program does. -/
  isNarrow : Bool := false
  /-- The level that matters least among those written; `none` to write nothing. -/
  level : Option Level := some .trace
  deriving Repr, DecidableEq

namespace Directive

/-! ## Reading -/

/-- The number that digits, perhaps after a plus sign, stand for. -/
def number? (text : List Char) : Option Nat :=
  let digits := match text with
    | '+' :: rest => rest
    | _ => text
  if digits.isEmpty || !digits.all Char.isDigit then none
  else some (digits.foldl (fun n c => n * 10 + (c.toNat - '0'.toNat)) 0)

/-- The level that a word or a number stands for. -/
def level? (text : List Char) : Option (Option Level) :=
  match number? text with
  | some 0 => some none
  | some 1 => some (some .error)
  | some 2 => some (some .warn)
  | some 3 => some (some .info)
  | some 4 => some (some .debug)
  | some 5 => some (some .trace)
  | _ =>
    match String.ofList (text.map Char.toLower) with
    | "" => some (some .error)
    | "error" => some (some .error)
    | "warn" => some (some .warn)
    | "info" => some (some .info)
    | "debug" => some (some .debug)
    | "trace" => some (some .trace)
    | "off" => some none
    | _ => none

/-- How far the reading of a directive has come.  The numbers say where the part under way
starts. -/
inductive Stage where
  | start
  /-- In a word of which it is not known yet what it is. -/
  | word (start : Nat)
  | span (start : Nat)
  | field (start : Nat)
  /-- After the fields. -/
  | fields
  /-- After the span. -/
  | bracket
  | level (start : Nat)
  deriving Repr, DecidableEq

/-- The characters from one position up to another. -/
def slice (text : List Char) (start stop : Nat) : List Char := (text.drop start).take (stop - start)

/-- Whether a text is a number, or a word for what is not a finite one. -/
def isNumber (text : List Char) : Bool :=
  let unsigned := match text with
    | '+' :: rest => rest
    | '-' :: rest => rest
    | _ => text
  let word := String.ofList (unsigned.map Char.toLower)
  ["inf", "infinity", "nan"].contains word || (Number.Decimal.ofChars? unsigned).isSome

/-- Whether an expression asks for an edge of words of Unicode. -/
def asksForWords : Pattern.Expr → Bool
  | .look (.word unicode _) => unicode
  | .seq first second => asksForWords first || asksForWords second
  | .alt first second => asksForWords first || asksForWords second
  | .rep _ _ _ part => asksForWords part
  | .capture _ part => asksForWords part
  | _ => false

/-- Whether a text is a pattern for values.  Only text may match it, and it cannot ask for edges of
words of Unicode. -/
def isPattern (text : List Char) : Bool :=
  match (Pattern.Tree.parse (String.ofList text)).bind (·.textMeaning) with
  | .ok expr => !asksForWords expr
  | .error _ => false

/-- A field is a name, perhaps with a value to be compared with: a number or a pattern, up to the
next equals sign. -/
def withField (directive : Directive) (field : List Char) : Option Directive :=
  if field.isEmpty then none
  else
    let name := field.takeWhile (· ≠ '=')
    let named := { directive with fields := directive.fields ++ [name] }
    match field.drop name.length with
    | [] => some named
    | _ :: rest =>
      let value := rest.takeWhile (· ≠ '=')
      if isNumber value || isPattern value then some { named with isNarrow := true } else none

/-- Read one more character, which stands at a position. -/
def readChar (text : List Char) (position : Nat) (c : Char) :
    Stage × Directive → Option (Stage × Directive)
  | (.start, directive) =>
    if c = '[' then some (.span (position + 1), directive)
    else if c = '-' || c = ':' || c = '_' || Property.isAlphanumeric c then
      some (.word position, directive)
    else none
  | (.word start, directive) =>
    let withOrigin := { directive with origin := some (slice text start position) }
    if c = '=' then some (.level (position + 1), withOrigin)
    else if c = '[' then some (.span (position + 1), withOrigin)
    else some (.word start, directive)
  | (.span start, directive) =>
    if c = ']' then some (.bracket, { directive with isNarrow := true })
    else if c = '\x7b' then
      some (.field (position + 1),
        { directive with isNarrow := directive.isNarrow || !(slice text start position).isEmpty })
    else some (.span start, directive)
  | (.field start, directive) =>
    if c = '\x7d' then
      (directive.withField (slice text start position)).map fun directive => (.fields, directive)
    else some (.field start, directive)
  | (.fields, directive) => if c = ']' then some (.bracket, directive) else none
  | (.bracket, directive) => if c = '=' then some (.level (position + 1), directive) else none
  | (.level start, directive) => some (.level start, directive)

/-- Read characters from a position on. -/
def readFrom (text : List Char) (position : Nat) :
    List Char → Stage × Directive → Option (Stage × Directive)
  | [], state => some state
  | c :: rest, state => (readChar text position c state).bind (readFrom text (position + 1) rest)

/-- What has been read when the text ends. -/
def finish (text : List Char) : Stage × Directive → Option Directive
  | (.word start, directive) =>
    let word := text.drop start
    match level? word with
    | some level => some { directive with level }
    | none => some { directive with origin := some word }
  | (.level start, directive) =>
    let word := text.drop start
    if word.isEmpty then some directive
    else (level? word).map fun level => { directive with level }
  | (.bracket, directive) => some directive
  | _ => none

/-- Text without the white space around it. -/
def trim (text : List Char) : List Char :=
  let isSpace := Property.isWhiteSpace
  ((text.dropWhile isSpace).reverse.dropWhile isSpace).reverse

/-- Read a directive.  The characters are taken without the white space around the text, but the
parts are cut out of the whole text at the positions found. -/
def parse? (text : List Char) : Option Directive :=
  (readFrom text 0 (trim text) (.start, {})).bind (finish text)

/-! ## Deciding -/

/-- Whether an event falls under a directive. -/
def covers (directive : Directive) (event : Event) : Bool :=
  let names := "message" :: event.fields.map Prod.fst
  !directive.isNarrow
    && directive.origin.all (·.isPrefixOf event.origin.toList)
    && directive.fields.all fun field => names.contains (String.ofList field)

/-- Whether an event matters enough for a directive. -/
def admits (directive : Directive) (event : Event) : Bool :=
  directive.level.any fun level => event.level.rank ≤ level.rank

/-- Whether a list of texts comes after another one in the order of dictionaries. -/
def follows : List (List Char) → List (List Char) → Bool
  | [], _ => false
  | _ :: _, [] => true
  | first :: rest, other :: others =>
    if first = other then follows rest others else decide (other < first)

/-- Whether a directive decides before another one that covers the same event: it names more of
the origin or, failing that, more fields. -/
def precedes (directive other : Directive) : Bool :=
  let size (directive : Directive) : Nat := (directive.origin.map (·.length + 1)).getD 0
  if size directive ≠ size other then size other < size directive
  else if directive.fields.length ≠ other.fields.length then
    other.fields.length < directive.fields.length
  else directive.fields = other.fields || follows directive.fields other.fields

end Directive

/-- The directives that decide which events are written. -/
abbrev LogFilter := List Directive

namespace LogFilter

/-- The directive that decides on an event.  Of two with the same range the later one does. -/
def deciding? (filter : LogFilter) (event : Event) : Option Directive :=
  (filter.filter (·.covers event)).foldl (fun best directive =>
    match best with
    | some other => if directive.precedes other then some directive else best
    | none => some directive) none

/-- Whether an event is written. -/
def admits (filter : LogFilter) (event : Event) : Bool :=
  (filter.deciding? event).any (·.admits event)

/-- The texts between the commas of a text, the first `part` characters, in reverse, having been
read. -/
def partsFrom (part : List Char) : List Char → List (List Char)
  | [] => [part.reverse]
  | c :: rest => if c = ',' then part.reverse :: partsFrom [] rest else partsFrom (c :: part) rest

/-- Read the directives between commas.  One bad directive spoils the filter. -/
def parse? (text : String) : Option LogFilter :=
  ((partsFrom [] text.toList).filter (!·.isEmpty)).mapM Directive.parse?

/-- The filter for a number of requests to be told more. -/
def ofVerbosity : Nat → LogFilter
  | 0 => [{ level := some .warn }]
  | 1 => [{ level := some .info }]
  | _ => [{ level := some .debug }]

/-- The events that are written, as text. -/
def write (filter : LogFilter) (events : List Event) : String :=
  String.join ((events.filter filter.admits).map Event.line)

end LogFilter

end Emend
