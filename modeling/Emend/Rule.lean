/-
# Rules

A rule finds a text and replaces it: a literal rule every occurrence of a text, a pattern rule every
match of a pattern.  The rules of an entry are compiled together and applied one after the other,
literal rules first.
-/

import Emend.Formatter
import Emend.Text.Quoted
import Emend.Text.Substitute
import Emend.Text.Utf8

namespace Emend

/-- What to look for and what to put in its place. -/
structure Substitution where
  /-- The text or pattern to look for. -/
  find : String
  /-- The text or template to put in its place. -/
  replacement : String
  deriving Repr, DecidableEq

/-- Replace a literal in a content; `none` when it does not occur.  An empty literal is found
before, between and after the characters of any content, and never inside one. -/
def Substitution.applyLiteral (rule : Substitution) (content : Bytes) : Option Bytes :=
  let replacement := Bytes.ofText rule.replacement
  if rule.find.isEmpty then some (insertAtBoundaries replacement content)
  else Substitute.replace? (Bytes.ofText rule.find) replacement content
where
  /-- Put bytes at every boundary: well-formed runs are taken character by character, ill-formed
  sequences byte by byte. -/
  insertAtBoundaries (inserted content : Bytes) : Bytes :=
    (Utf8.chunks content).flatMap (fun chunk =>
      chunk.valid.flatMap (fun c => inserted ++ String.utf8EncodeChar c)
        ++ chunk.invalid.flatMap (fun b => inserted ++ [b])) ++ inserted

/-- A rule ready to be applied. -/
inductive Rule where
  /-- Replace a text. -/
  | literal (rule : Substitution)
  /-- Replace the matches of a pattern. -/
  | pattern (rule : Substitution) (regex : Pattern.Regex)
  deriving Repr

namespace Rule

/-- Compile a pattern rule. -/
def ofPattern (rule : Substitution) : Except Pattern.CompileError Rule :=
  (Pattern.Regex.compile rule.find).map fun regex => .pattern rule regex

/-- What the rule looks for and what it puts in its place. -/
def substitution : Rule → Substitution
  | literal rule => rule
  | pattern rule _ => rule

/-- The word for the kind of a rule. -/
def kind : Rule → String
  | literal _ => "string"
  | pattern .. => "regexp"

/-- A rule as it is shown. -/
def display (rule : Rule) : String :=
  rule.kind ++ " " ++ Quoted.quote rule.substitution.find ++ " -> "
    ++ Quoted.quote rule.substitution.replacement

/-- Apply a rule to a content; `none` when nothing is found. -/
def substitute? (rule : Rule) (content : Bytes) : Option Bytes :=
  match rule with
  | literal rule => rule.applyLiteral content
  | pattern rule regex =>
    regex.replace? (Pattern.Template.parse rule.replacement) content

/-- Apply a rule to a content, which stays as it is when nothing is found. -/
def apply (rule : Rule) (content : Bytes) : Bytes :=
  (rule.substitute? content).getD content

end Rule

/-- The rules of an entry, in the order in which they are applied. -/
abbrev RuleSet := List Rule

/-- Compile the rules of an entry.  The first pattern that is refused is reported. -/
def RuleSet.compile (literals patterns : List Substitution) : Except BadPattern RuleSet := do
  let compiled ← patterns.mapM fun rule =>
    (Rule.ofPattern rule).mapError fun reason => { pattern := rule.find, reason }
  return literals.map Rule.literal ++ compiled

namespace RuleSet

/-- What a rule has made of a content. -/
structure Step where
  rule : Rule
  /-- Whether the rule found anything. -/
  matched : Bool
  /-- The content after it. -/
  content : Bytes

/-- The steps of applying rules one after the other. -/
def steps : RuleSet → Bytes → List Step
  | [], _ => []
  | rule :: rules, content =>
    match rule.substitute? content with
    | some changed => { rule, matched := true, content := changed } :: steps rules changed
    | none => { rule, matched := false, content } :: steps rules content

/-- Apply rules one after the other. -/
def apply (rules : RuleSet) (content : Bytes) : Bytes :=
  rules.foldl (fun content rule => rule.apply content) content

/-- Apply rules and then a formatter, which also gets a content in which no rule found anything. -/
def emend (rules : RuleSet) (formatter : Option Formatter) (content : Bytes) :
    Except Failure Bytes :=
  match formatter with
  | some formatter => formatter.format (rules.apply content)
  | none => .ok (rules.apply content)

end RuleSet

end Emend
