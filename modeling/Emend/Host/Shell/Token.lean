/-
# Tokens of scripts

A script is taken apart into words, signs and redirections.  The lines that a redirection takes as
its text are taken out on the way.
-/

import Emend.Host.Shell.Word

namespace Emend.Host.Shell

/-- A part of a script. -/
inductive Token where
  /-- A word, with its text if nothing in it is quoted or to be expanded. -/
  | word (word : Word) (plain? : Option String)
  | sign (text : String)
  /-- A redirection, of a stream if its number is given, and what follows tells where it leads. -/
  | redirect (stream? : Option Nat) (sign : String)
  | here (stream? : Option Nat) (text : Word)
  | newline
  | fault (fault : SyntaxFault)
  deriving Repr, DecidableEq

/-- A token and the number of its line. -/
structure Placed where
  line : Nat
  token : Token
  deriving Repr, DecidableEq

/-- The signs between words, longer ones before those that they start with. -/
def signs : List String := [";;", "&&", "||", ";", "&", "|", "(", ")"]

/-- The signs of redirections. -/
def redirectSigns : List String := ["<<-", "<<", "<&", "<>", "<", ">>", ">&", ">|", ">"]

/-- The one of some signs that a text starts with. -/
def leadingSign? (signs : List String) (text : List Char) : Option String :=
  signs.find? fun sign => sign.toList.isPrefixOf text

/-- The text of a word of which nothing is quoted or to be expanded. -/
def plainText? : Word → Option String
  | [.text chars false] => some (String.ofList chars)
  | _ => none

/-- The characters of a word, without its quotes. -/
def bareText (word : Word) : List Char :=
  word.flatMap fun piece =>
    match piece with
    | .text chars _ => chars
    | .parameter name _ _ => '$' :: name
    | .command _ _ | .arithmetic _ _ => []

/-- The lines up to one that is as given, and those after it; tabs before a line are left out if
`stripped`. -/
def upToLine (stripped : Bool) (ending : List Char) (lines : List (List Char)) :
    List (List Char) × List (List Char) :=
  match lines with
  | [] => ([], [])
  | line :: rest =>
    let shown := if stripped then line.dropWhile (· = '\t') else line
    if shown = ending then ([], rest)
    else
      let (inner, after) := upToLine stripped ending rest
      (shown :: inner, after)

/-- The lines of a text, of which the characters of `line` have been read, in reverse. -/
def linesFrom (line : List Char) : List Char → List (List Char)
  | [] => [line.reverse]
  | c :: rest => if c = '\n' then line.reverse :: linesFrom [] rest else linesFrom (c :: line) rest

/-- Take the lines that a redirection asks for out of what follows it: the lines after the present
one, up to one with a given text. -/
def takeLines (stripped : Bool) (ending : List Char) (chars : List Char) :
    List Char × List Char :=
  let present := chars.takeWhile (· ≠ '\n')
  match chars.drop present.length with
  | [] => ([], chars)
  | _ :: below =>
    let (inner, after) := upToLine stripped ending (linesFrom [] below)
    let text := inner.flatMap (· ++ ['\n'])
    let isCut := after.isEmpty && inner.getLast? = (linesFrom [] below).getLast?
    (if isCut then text.dropLast else text,
      present ++ '\n' :: (['\n'] : List Char).intercalate after)

/-- Whether a word is the number of a stream of which a redirection follows. -/
def streamNumber? (word : Word) : Option Nat :=
  match word with
  | [.text [digit] false] => if digit.isDigit then some (digit.toNat - '0'.toNat) else none
  | _ => none

/-- The number of line breaks in the characters that were read: `before` but not `after`. -/
def linesBetween (before after : List Char) : Nat :=
  (before.take (before.length - after.length)).count '\n'

/-- The token of a redirection, of which what follows the sign is given, and what follows it. -/
def redirection (stream? : Option Nat) (sign : String) (after : List Char) :
    Except SyntaxFault (Token × List Char) := do
  if sign = "<<" || sign = "<<-" then
    let after := after.dropWhile fun c => c = ' ' || c = '\t'
    let (word, rest) ← readWord .bare [] after (after.length + 1)
    let (text, rest) := takeLines (sign = "<<-") (bareText word) rest
    let body ← match plainText? word with
      | some _ => wordOf .lines text
      | none => .ok [.text text true]
    return (.here stream? body, rest)
  else return (.redirect stream? sign, after)

/-- The token that some characters start with, and what follows it. -/
def firstToken (chars : List Char) : Except SyntaxFault (Token × List Char) := do
  match leadingSign? redirectSigns chars, leadingSign? signs chars with
  | some sign, _ => redirection none sign (chars.drop sign.length)
  | none, some sign => return (.sign sign, chars.drop sign.length)
  | none, none =>
    let (word, after) ← readWord .bare [] chars (chars.length + 1)
    match streamNumber? word, leadingSign? redirectSigns after with
    | some stream, some sign => redirection (some stream) sign (after.drop sign.length)
    | _, _ => return (.word word (plainText? word), after)

/-- The tokens of a script.  Every step takes a character, so `fuel` need not exceed their number by
more than one. -/
def tokensFrom (line : Nat) (chars : List Char) : (fuel : Nat) → List Placed
  | 0 => []
  | fuel + 1 =>
    match chars with
    | [] => []
    | '\n' :: rest => ⟨line, .newline⟩ :: tokensFrom (line + 1) rest fuel
    | '\\' :: '\n' :: rest => tokensFrom (line + 1) rest fuel
    | c :: rest =>
      if c = ' ' || c = '\t' then tokensFrom line rest fuel
      else if c = '#' then tokensFrom line (rest.dropWhile (· ≠ '\n')) fuel
      else
        match firstToken chars with
        | .error fault => [⟨line + chars.count '\n', .fault fault⟩]
        | .ok (token, after) =>
          let passed := match token with
            | .here _ _ => 0
            | _ => linesBetween chars after
          ⟨line, token⟩ :: tokensFrom (line + passed) after fuel

/-- The tokens of a script. -/
def tokens (script : List Char) : List Placed := tokensFrom 1 script (script.length + 1)

end Emend.Host.Shell
