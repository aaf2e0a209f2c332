/-
# Reading words

Where a word ends, which of its characters are quoted, and what stands in for a part of it.
-/

import Emend.Host.Shell.Syntax

namespace Emend.Host.Shell

/-- What is wrong with a script. -/
inductive SyntaxFault where
  /-- A quotation that does not end. -/
  | openQuote
  /-- An expansion that does not end. -/
  | openExpansion
  /-- An expression that does not end. -/
  | openArithmetic
  /-- A loop over values of what is no name. -/
  | noLoopName
  /-- An expansion that makes no sense. -/
  | badSubstitution
  /-- A text of its own lines that does not end. -/
  | unexpected (found : String) (expected? : Option String)
  deriving Repr, DecidableEq

/-- A fault in words. -/
def SyntaxFault.message : SyntaxFault → String
  | openQuote => "Syntax error: Unterminated quoted string"
  | openExpansion => "Syntax error: Missing '\x7d'"
  | openArithmetic => "Syntax error: Missing '))'"
  | noLoopName => "Syntax error: Bad for loop variable"
  | badSubstitution => "Bad substitution"
  | unexpected found expected? =>
    "Syntax error: " ++ found ++ " unexpected"
      ++ (expected?.map fun expected => " (expecting " ++ expected ++ ")").getD ""

/-- What surrounds the characters that are being read. -/
inductive Context where
  /-- Nothing: signs and blanks end the word. -/
  | bare
  /-- Double quotes, which end it. -/
  | quotes
  /-- Nothing, up to the end of the characters. -/
  | whole
  /-- Lines of their own, in which quotes mean nothing. -/
  | lines
  deriving Repr, DecidableEq

/-- Whether what stands in for a part is to be split into words. -/
def Context.isQuoted : Context → Bool
  | quotes | lines => true
  | bare | whole => false

/-- Characters that end a word. -/
def isSign (c : Char) : Bool :=
  [' ', '\t', '\n', ';', '&', '|', '<', '>', '(', ')'].contains c

/-- Characters that may start a name. -/
def startsName (c : Char) : Bool := c.isAlpha || c = '_'

/-- Characters of a name. -/
def inName (c : Char) : Bool := c.isAlphanum || c = '_'

/-- Whether characters are a name that a variable can have. -/
def isName (name : List Char) : Bool := name.head?.any startsName && name.all inName

/-- Parameters whose name is a sign. -/
def isSpecial (c : Char) : Bool := ['@', '*', '#', '?', '-', '$', '!'].contains c

/-- The characters up to the bracket that closes an expansion, and those after it.  `depth` is the
number of brackets open inside, and `quote` the quotation mark that is open. -/
def upToBracket (opening closing : Char) (depth : Nat) (quote : Option Char) :
    List Char → Option (List Char × List Char)
  | [] => none
  | '\\' :: c :: rest =>
    if quote = some '\'' then
      (upToBracket opening closing depth (if c = '\'' then none else quote) rest).map
        fun (inner, after) => ('\\' :: c :: inner, after)
    else
      (upToBracket opening closing depth quote rest).map
        fun (inner, after) => ('\\' :: c :: inner, after)
  | c :: rest =>
    let go (depth : Nat) (quote : Option Char) :=
      (upToBracket opening closing depth quote rest).map fun (inner, after) => (c :: inner, after)
    match quote with
    | some mark => go depth (if c = mark then none else quote)
    | none =>
      if c = '\'' || c = '"' then go depth (some c)
      else if c = closing then
        match depth with
        | 0 => some ([], rest)
        | outer + 1 => go outer none
      else go (if c = opening then depth + 1 else depth) none

/-- The characters up to a backquote, with escapes in them taken out, and those after it. -/
def upToBackquote : List Char → Option (List Char × List Char)
  | [] => none
  | '\x60' :: rest => some ([], rest)
  | '\\' :: c :: rest =>
    (upToBackquote rest).map fun (inner, after) =>
      (if c = '\x60' || c = '\\' || c = '$' then c :: inner else '\\' :: c :: inner, after)
  | c :: rest => (upToBackquote rest).map fun (inner, after) => (c :: inner, after)

/-- The name of a parameter at the start of a text, and what follows it. -/
def parameterName (text : List Char) : Option (List Char × List Char) :=
  match text with
  | c :: rest =>
    if startsName c then some (c :: rest.takeWhile inName, rest.dropWhile inName)
    else if c.isDigit then some (c :: rest.takeWhile Char.isDigit, rest.dropWhile Char.isDigit)
    else if isSpecial c then some ([c], rest)
    else none
  | [] => none

/-- The expansion of a parameter between braces. -/
def bracedParameter (inner : List Char) : Except SyntaxFault (List Char × Change) :=
  match inner with
  | '#' :: c :: rest =>
    match parameterName (c :: rest) with
    | some (name, []) => .ok (name, .length)
    | _ => .error .badSubstitution
  | _ =>
    match parameterName inner with
    | none => .error .badSubstitution
    | some (name, []) => .ok (name, .same)
    | some (name, ':' :: sign :: word) =>
      if ['-', '=', '?', '+'].contains sign then .ok (name, .instead sign true word)
      else .error .badSubstitution
    | some (name, '%' :: '%' :: pattern) => .ok (name, .without true true pattern)
    | some (name, '%' :: pattern) => .ok (name, .without true false pattern)
    | some (name, '#' :: '#' :: pattern) => .ok (name, .without false true pattern)
    | some (name, '#' :: pattern) => .ok (name, .without false false pattern)
    | some (name, sign :: word) =>
      if ['-', '=', '?', '+'].contains sign then .ok (name, .instead sign false word)
      else .error .badSubstitution

/-- The part after a dollar sign and what follows it; `none` if the sign stands for itself. -/
def afterDollar (quoted : Bool) (rest : List Char) :
    Except SyntaxFault (Option (Piece × List Char)) :=
  match rest with
  | '(' :: '(' :: inner =>
    match upToBracket '(' ')' 1 none inner with
    | some (expression, after) =>
      if expression.getLast? = some ')' then
        .ok (some (.arithmetic expression.dropLast quoted, after))
      else .error .openArithmetic
    | none => .error .openArithmetic
  | '(' :: inner =>
    match upToBracket '(' ')' 0 none inner with
    | some (script, after) => .ok (some (.command script quoted, after))
    | none => .error (.unexpected "end of file" (some "\")\""))
  | '\x7b' :: inner =>
    match upToBracket '\x7b' '\x7d' 0 none inner with
    | some (body, after) => do
      let (name, change) ← bracedParameter body
      return some (.parameter name change quoted, after)
    | none => .error .openExpansion
  | c :: after =>
    if c.isDigit || isSpecial c then .ok (some (.parameter [c] .same quoted, after))
    else
      match parameterName rest with
      | some (name, after) => .ok (some (.parameter name .same quoted, after))
      | none => .ok none
  | [] => .ok none

/-- A word with a character added; its last piece is the first of the list, and the characters of a
text are in reverse. -/
def addChar (pieces : Word) (c : Char) (quoted : Bool) : Word :=
  match pieces with
  | .text chars wasQuoted :: others =>
    if wasQuoted = quoted then .text (c :: chars) quoted :: others
    else .text [c] quoted :: pieces
  | _ => .text [c] quoted :: pieces

/-- The word of pieces in reverse. -/
def inOrder (pieces : Word) : Word :=
  pieces.reverse.map fun piece =>
    match piece with
    | .text chars quoted => .text chars.reverse quoted
    | other => other

/-- Read a word; `pieces` are those read, in reverse.  The answer is the word and what follows it.
Every step takes a character, so `fuel` need not exceed their number by more than one. -/
def readWord (context : Context) (pieces : Word) (chars : List Char) :
    (fuel : Nat) → Except SyntaxFault (Word × List Char)
  | 0 => .ok (inOrder pieces, chars)
  | fuel + 1 =>
    let quoted := context.isQuoted
    match chars with
    | [] => if context = .quotes then .error .openQuote else .ok (inOrder pieces, [])
    | c :: rest =>
      if context = .quotes && c = '"' then .ok (inOrder pieces, rest)
      else if context = .bare && isSign c then .ok (inOrder pieces, chars)
      else if c = '$' then do
        match ← afterDollar quoted rest with
        | some (piece, after) => readWord context (piece :: pieces) after fuel
        | none => readWord context (addChar pieces c quoted) rest fuel
      else if c = '\x60' then
        match upToBackquote rest with
        | some (script, after) =>
          readWord context (.command script quoted :: pieces) after fuel
        | none => .error (.unexpected "EOF in backquote substitution" none)
      else if c = '\\' then
        match rest with
        | '\n' :: after => readWord context pieces after fuel
        | next :: after =>
          let isEscapable := ['$', '\x60', '\\'].contains next || (context = .quotes && next = '"')
          if quoted && !isEscapable then
            readWord context (addChar pieces c true) rest fuel
          else readWord context (addChar pieces next true) after fuel
        | [] => readWord context (addChar pieces c true) rest fuel
      else if !quoted && c = '\'' then
        let inner := rest.takeWhile (· ≠ '\'')
        match rest.drop inner.length with
        | _ :: after =>
          readWord context (.text inner.reverse true :: .text [] true :: pieces) after fuel
        | [] => .error .openQuote
      else if !quoted && c = '"' then do
        let (inner, after) ← readWord .quotes [] rest fuel
        let inner := inner.map fun piece =>
          match piece with
          | .text chars quoted => .text chars.reverse quoted
          | other => other
        readWord context (inner.reverse ++ .text [] true :: pieces) after fuel
      else readWord context (addChar pieces c quoted) rest fuel

/-- The word that some characters are. -/
def wordOf (context : Context) (chars : List Char) : Except SyntaxFault Word :=
  (readWord context [] chars (chars.length + 1)).map Prod.fst

end Emend.Host.Shell
