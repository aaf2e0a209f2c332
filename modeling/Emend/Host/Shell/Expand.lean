/-
# Expanding words

What stands in for the parts of a word, and how the result is split into the arguments of a command.
-/

import Emend.Host.Shell.Arithmetic
import Emend.Host.Shell.Match
import Emend.Host.Shell.State

namespace Emend.Host.Shell

/-- A part of a word that has been expanded. -/
inductive Expanded where
  /-- A byte that stays where it is; a quoted one has no meaning of its own. -/
  | byte (b : UInt8) (quoted : Bool)
  /-- A byte of a value, at which the word may be split. -/
  | value (b : UInt8)
  /-- A quotation, which makes a word even if it is empty. -/
  | quotation
  /-- The place of a list of no arguments: an empty word around it is no word. -/
  | nothing
  /-- Where one argument ends and the next one begins. -/
  | boundary
  deriving Repr, DecidableEq

namespace Expanded

/-- A text that stands in for something. -/
def ofValue (quoted : Bool) (text : Bytes) : List Expanded :=
  text.map fun b => if quoted then byte b true else value b

/-- The list of arguments. -/
def ofArguments (quoted : Bool) (args : List Bytes) : List Expanded :=
  match args with
  | [] => if quoted then [nothing] else []
  | _ =>
    let shown := args.map fun arg =>
      (if quoted then [quotation] else []) ++ ofValue quoted arg
    ([boundary] : List Expanded).intercalate shown

/-- The bytes of a word that is not split. -/
def cells (parts : List Expanded) : List Cell :=
  parts.flatMap fun part =>
    match part with
    | byte b quoted => [(b, quoted)]
    | value b => [(b, false)]
    | boundary => [(0x20, true)]
    | quotation | nothing => []

/-- The text of a word that is not split. -/
def text (parts : List Expanded) : Bytes := (cells parts).map Prod.fst

/-- Words that are being split. -/
structure Split where
  /-- The words that are complete, the last first. -/
  words : List Bytes := []
  /-- The word under way, in reverse. -/
  word : Bytes := []
  /-- Whether the word under way is one even if it is empty. -/
  isWord : Bool := false
  /-- Whether a blank ended the last word, so that one other separator belongs to it. -/
  afterBlank : Bool := false

namespace Split

/-- End the word under way. -/
def close (split : Split) (always : Bool := false) : Split :=
  if always || split.isWord || !split.word.isEmpty then
    { words := split.word.reverse :: split.words, afterBlank := true }
  else { split with isWord := false }

/-- Add a byte to the word under way. -/
def add (split : Split) (b : UInt8) : Split :=
  { split with word := b :: split.word, isWord := true, afterBlank := false }

/-- Go on with a part. -/
def step (separators : Bytes) (split : Split) (part : Expanded) : Split :=
  match part with
  | byte b _ => split.add b
  | quotation => { split with isWord := true }
  | nothing => if split.word.isEmpty then { split with isWord := false } else split
  | boundary => split.close
  | value b =>
    if !separators.contains b then split.add b
    else if Filter.isBlank b || b = 0x0A then split.close
    else if split.afterBlank && split.word.isEmpty && !split.isWord then
      { split with afterBlank := false }
    else { split.close true with afterBlank := false }

end Split

/-- The words into which an expanded word is split. -/
def split (separators : Bytes) (parts : List Expanded) : List Bytes :=
  (parts.foldl (Split.step separators) {}).close.words.reverse

end Expanded

/-! ## Parameters -/

/-- Run a script in a word: the state after it and its output. -/
abbrev Substitution := State → List Char → State × Bytes

/-- The state and what a word becomes in it. -/
abbrev Expansion := State → Word → State × List Expanded

/-- Whether a parameter is the list of all arguments. -/
def isList (name : List Char) : Bool := name = ['@'] || name = ['*']

/-- What a parameter is; nothing if it is not set. -/
def parameter (state : State) (name : List Char) (quoted : Bool) : Option (List Expanded) :=
  if name = ['*'] && quoted then
    let between := match state.value? "IFS".toList with
      | some separators => separators.take 1
      | none => [0x20]
    some (Expanded.ofValue true (between.intercalate state.args))
  else if isList name then some (Expanded.ofArguments quoted state.args)
  else (state.parameter? name).map (Expanded.ofValue quoted)

/-- What a parameter with a change becomes; `inner` expands words in the change. -/
def expandParameter (inner : Expansion) (state : State) (name : List Char) (change : Change)
    (quoted : Bool) : State × List Expanded :=
  let found? := parameter state name quoted
  let found := found?.getD []
  let wordIn (chars : List Char) : State × List Expanded :=
    match wordOf (if quoted then .lines else .whole) chars with
    | .ok word => inner state word
    | .error fault => (state.abort (Bytes.ofText fault.message), [])
  let about (text : Bytes) : State :=
    state.abort (Bytes.ofChars name ++ Bytes.ofText ": " ++ text)
  match change with
  | .same =>
    if found?.isNone && state.options.contains 'u' then
      (about (Bytes.ofText "parameter not set"), [])
    else (state, found)
  | .length =>
    let length :=
      if isList name then state.args.length else ((state.parameter? name).getD []).length
    (state, Expanded.ofValue quoted (Bytes.ofText length.repr))
  | .instead sign orEmpty word =>
    let isMissing :=
      if isList name then state.args.isEmpty || (orEmpty && state.args.all (·.isEmpty))
      else found?.isNone || (orEmpty && found.isEmpty)
    match sign with
    | '+' => if isMissing then (state, []) else wordIn word
    | '-' => if isMissing then wordIn word else (state, found)
    | '=' =>
      if !isMissing then (state, found)
      else
        let (state, parts) := wordIn word
        let value := Expanded.text parts
        (state.assign name value, Expanded.ofValue quoted value)
    | _ =>
      if !isMissing then (state, found)
      else if word.isEmpty then
        (about (Bytes.ofText (if orEmpty then "parameter not set or null"
          else "parameter not set")), [])
      else
        let (state, parts) := wordIn word
        (state.abort (Bytes.ofChars name ++ Bytes.ofText ": " ++ Expanded.text parts), [])
  | .without atEnd longest pattern =>
    match wordOf .whole pattern with
    | .ok word =>
      let (state, parts) := inner state word
      let cells := Expanded.cells parts
      let value := Expanded.text found
      (state, Expanded.ofValue quoted (withoutMatch atEnd longest cells value))
    | .error fault => (state.abort (Bytes.ofText fault.message), [])

/-- The value of an expression in a word, with the settings in it made. -/
def expandArithmetic (inner : Expansion) (state : State) (expression : List Char) :
    State × Bytes :=
  match wordOf .lines expression with
  | .error fault => (state.abort (Bytes.ofText fault.message), [])
  | .ok word =>
    let (state, parts) := inner state word
    let text := (Utf8.lossy (Expanded.text parts)).toList
    let value (name : List Char) : List Char :=
      (Utf8.lossy ((state.value? name).getD [])).toList
    match (Arithmetic.parse text).bind (Arithmetic.eval value []) with
    | .error fault => (state.abort (Bytes.ofText (fault.message text)), [])
    | .ok (n, settings) =>
      (settings.reverse.foldl
        (fun state (name, n) => state.assign name (Bytes.ofText (toString n))) state,
        Bytes.ofText (toString n))

/-- What a piece of a word becomes. -/
def expandPiece (run : Substitution) (inner : Expansion) (state : State) (piece : Piece) :
    State × List Expanded :=
  match piece with
  | .text [] true => (state, [.quotation])
  | .text chars quoted => (state, (Bytes.ofChars chars).map (Expanded.byte · quoted))
  | .parameter name change quoted => expandParameter inner state name change quoted
  | .command script quoted =>
    let (state, output) := run state script
    let isBreak (b : UInt8) : Bool := b = 0x0A
    let kept := (output.reverse.dropWhile isBreak).reverse.filter (· ≠ 0)
    (state, Expanded.ofValue quoted kept)
  | .arithmetic expression quoted =>
    let (state, value) := expandArithmetic inner state expression
    (state, Expanded.ofValue quoted value)

/-- What a word becomes.  Words stand inside words; `fuel` bounds how deep. -/
def expandWord (run : Substitution) : (fuel : Nat) → Expansion
  | 0, state, _ => (state, [])
  | fuel + 1, state, word =>
    word.foldl (fun (state, parts) piece =>
      if state.flow = .onward then
        let (state, more) := expandPiece run (expandWord run fuel) state piece
        (state, parts ++ more)
      else (state, parts)) (state, [])

/-- How deep words may stand inside words. -/
def wordDepth : Nat := 100

/-- The text that a word becomes where it is not split. -/
def expandText (run : Substitution) (state : State) (word : Word) : State × Bytes :=
  let (state, parts) := expandWord run wordDepth state word
  (state, Expanded.text parts)

/-- The arguments that words become. -/
def expandWords (run : Substitution) (state : State) (words : List Word) : State × List Bytes :=
  words.foldl (fun (state, args) word =>
    let (state, parts) := expandWord run wordDepth state word
    (state, args ++ Expanded.split state.separators parts)) (state, [])

end Emend.Host.Shell
