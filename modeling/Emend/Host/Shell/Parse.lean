/-
# The commands of a script

`Script.parse` reads the commands of a script line by line, so that what comes before a line that
makes no sense can be run.
-/

import Emend.Host.Shell.Token

namespace Emend.Host.Shell

/-- Words that have a meaning of their own where a command may start. -/
def reserved : List String :=
  ["!", "case", "do", "done", "elif", "else", "esac", "fi", "for", "if", "in", "then", "until",
    "while", "\x7b", "\x7d"]

/-- Reserved words and signs at which a list of commands ends. -/
def listEnds : List String :=
  ["do", "done", "elif", "else", "esac", "fi", "then", "\x7d", ")", ";;"]

/-- A token in words, where reserved words count. -/
def Token.name : Token → String
  | word _ (some plain) => if reserved.contains plain then "\"" ++ plain ++ "\"" else "word"
  | word _ none => "word"
  | sign text => "\"" ++ text ++ "\""
  | redirect _ _ | here _ _ => "redirection"
  | newline => "newline"
  | fault _ => "word"

/-- The tokens that are left of a script. -/
abbrev Tokens := List Placed

/-- What is wrong, and in which line. -/
abbrev Misread := SyntaxFault × Nat

/-- The fault that the next token is not what has to come. -/
def unexpected (lastLine : Nat) (rest : Tokens) (expected? : Option String := none) : Misread :=
  match rest with
  | ⟨line, .fault fault⟩ :: _ => (fault, line)
  | ⟨line, token⟩ :: _ => (.unexpected token.name expected?, line)
  | [] => (.unexpected "end of file" expected?, lastLine)

/-- Whether the next token is a given word or sign. -/
def startsWith (text : String) (rest : Tokens) : Bool :=
  match rest with
  | ⟨_, .word _ (some plain)⟩ :: _ => plain = text
  | ⟨_, .sign sign⟩ :: _ => sign = text
  | _ => false

/-- Whether the next token is one of some words or signs. -/
def startsWithAny (texts : List String) (rest : Tokens) : Bool := texts.any (startsWith · rest)

/-- The tokens after line breaks. -/
def afterBreaks (rest : Tokens) : Tokens := rest.dropWhile fun placed => placed.token = .newline

/-- The tokens after a word or sign that has to come. -/
def expect (lastLine : Nat) (text : String) (rest : Tokens) : Except Misread Tokens :=
  if startsWith text rest then .ok rest.tail
  else .error (unexpected lastLine rest (some ("\"" ++ text ++ "\"")))

/-- The name and the value of a setting, if a word is one. -/
def setting? (word : Word) : Option (List Char × Word) :=
  match word with
  | .text chars false :: others =>
    let name := chars.takeWhile inName
    match chars.drop name.length with
    | '=' :: value =>
      if name.head?.any startsName then
        some (name, if value.isEmpty then others else .text value false :: others)
      else none
    | _ => none
  | _ => none

/-- A redirection by its sign. -/
def redirectionOf (stream? : Option Nat) (sign : String) (path : Word) : Redirection :=
  match sign with
  | "<" | "<>" => { stream := stream?.getD 0, target := .read path }
  | "<&" => { stream := stream?.getD 0, target := .copy path }
  | ">&" => { stream := stream?.getD 1, target := .copy path }
  | ">>" => { stream := stream?.getD 1, target := .write path true }
  | _ => { stream := stream?.getD 1, target := .write path false }

/-- The redirections that come next. -/
def redirectionsFrom (lastLine : Nat) (done : List Redirection) :
    Tokens → Except Misread (List Redirection × Tokens)
  | ⟨_, .redirect stream? sign⟩ :: ⟨_, .word path _⟩ :: rest =>
    redirectionsFrom lastLine (redirectionOf stream? sign path :: done) rest
  | ⟨_, .redirect _ _⟩ :: rest => .error (unexpected lastLine rest)
  | ⟨_, .here stream? text⟩ :: rest =>
    redirectionsFrom lastLine ({ stream := stream?.getD 0, target := .here text } :: done) rest
  | rest => .ok (done.reverse, rest)

/-- Words up to the next token that is none. -/
def wordsFrom : Tokens → List Word × Tokens
  | ⟨_, .word word _⟩ :: rest =>
    let (words, rest) := wordsFrom rest
    (word :: words, rest)
  | rest => ([], rest)

/-- The patterns before a closing bracket. -/
def patternsFrom (lastLine : Nat) : Tokens → Except Misread (List Word × Tokens)
  | ⟨_, .word word _⟩ :: ⟨_, .sign "|"⟩ :: rest => do
    let (patterns, rest) ← patternsFrom lastLine rest
    return (word :: patterns, rest)
  | ⟨_, .word word _⟩ :: rest => do return ([word], ← expect lastLine ")" rest)
  | [] => .error (unexpected lastLine [] (some "\")\""))
  | rest => .error (unexpected lastLine rest (some "word"))

/-- Read on a command of words. -/
def simpleFrom (lastLine : Nat) (command : Simple) : Tokens → Except Misread (Simple × Tokens)
  | ⟨_, .word word _⟩ :: rest =>
    match if command.words.isEmpty then setting? word else none with
    | some setting =>
      simpleFrom lastLine { command with settings := command.settings ++ [setting] } rest
    | none => simpleFrom lastLine { command with words := word :: command.words } rest
  | ⟨_, .redirect stream? sign⟩ :: ⟨_, .word path _⟩ :: rest =>
    simpleFrom lastLine
      { command with
        redirections := command.redirections ++ [redirectionOf stream? sign path] } rest
  | ⟨_, .redirect _ _⟩ :: rest => .error (unexpected lastLine rest)
  | ⟨_, .here stream? text⟩ :: rest =>
    simpleFrom lastLine
      { command with
        redirections :=
          command.redirections ++ [{ stream := stream?.getD 0, target := .here text }] } rest
  | rest => .ok ({ command with words := command.words.reverse }, rest)

/-- The name of a function whose definition starts here, and what follows its brackets. -/
def functionStart? : Tokens → Option (List Char × Tokens)
  | ⟨_, .word _ (some name)⟩ :: ⟨_, .sign "("⟩ :: ⟨_, .sign ")"⟩ :: rest =>
    some (name.toList, afterBreaks rest)
  | _ => none

mutual

/-- Read a list of commands.  The one of a whole line, `isLine`, ends with the line; others go over
line breaks and end before a token that ends a list.  `first` tells whether there has to be a
command. -/
def readList (lastLine : Nat) (isLine first : Bool) (rest : Tokens) :
    (fuel : Nat) → Except Misread (Script × Tokens)
  | 0 => .ok (.empty, [])
  | fuel + 1 => do
    let rest := if isLine then rest else afterBreaks rest
    match rest with
    | [] => return (.empty, [])
    | ⟨_, .newline⟩ :: after => return (.empty, after)
    | _ =>
      if !first && startsWithAny listEnds rest then
        if isLine then throw (unexpected lastLine rest)
        return (.empty, rest)
      let (script, rest) ← readAndOr lastLine rest fuel
      if startsWith "&" rest then
        let (more, rest) ← readList lastLine isLine false rest.tail fuel
        return (.sequence (.background script) more, rest)
      else if startsWith ";" rest then
        let (more, rest) ← readList lastLine isLine false rest.tail fuel
        return (.sequence script more, rest)
      else
        match rest with
        | [] => return (script, [])
        | ⟨_, .newline⟩ :: _ =>
          let (more, rest) ← readList lastLine isLine false rest fuel
          return (.sequence script more, rest)
        | _ =>
          if isLine then throw (unexpected lastLine rest)
          return (script, rest)

/-- Read commands of which some depend on those before them. -/
def readAndOr (lastLine : Nat) (rest : Tokens) : (fuel : Nat) → Except Misread (Script × Tokens)
  | 0 => .ok (.empty, [])
  | fuel + 1 => do
    let (first, rest) ← readPipeline lastLine rest fuel
    readAndOrAfter lastLine first rest fuel

/-- Read on commands of which some depend on those before them. -/
def readAndOrAfter (lastLine : Nat) (first : Script) (rest : Tokens) :
    (fuel : Nat) → Except Misread (Script × Tokens)
  | 0 => .ok (first, rest)
  | fuel + 1 => do
    if startsWith "&&" rest then
      let (second, rest) ← readPipeline lastLine (afterBreaks rest.tail) fuel
      readAndOrAfter lastLine (.andThen first second) rest fuel
    else if startsWith "||" rest then
      let (second, rest) ← readPipeline lastLine (afterBreaks rest.tail) fuel
      readAndOrAfter lastLine (.orElse first second) rest fuel
    else return (first, rest)

/-- Read commands that are connected by pipes. -/
def readPipeline (lastLine : Nat) (rest : Tokens) : (fuel : Nat) → Except Misread (Script × Tokens)
  | 0 => .ok (.empty, [])
  | fuel + 1 => do
    if startsWith "!" rest then
      let (body, rest) ← readPipes lastLine rest.tail fuel
      return (.negated body, rest)
    else readPipes lastLine rest fuel

/-- Read commands with pipes between them. -/
def readPipes (lastLine : Nat) (rest : Tokens) : (fuel : Nat) → Except Misread (Script × Tokens)
  | 0 => .ok (.empty, [])
  | fuel + 1 => do
    let (first, rest) ← readCommand lastLine rest fuel
    if startsWith "|" rest then
      let (second, rest) ← readPipes lastLine (afterBreaks rest.tail) fuel
      return (.pipe first second, rest)
    else return (first, rest)

/-- Read what follows the condition of a choice up to its end. -/
def readChoice (lastLine : Nat) (rest : Tokens) : (fuel : Nat) → Except Misread (Script × Tokens)
  | 0 => .ok (.empty, [])
  | fuel + 1 => do
    let (condition, rest) ← readList lastLine false true rest fuel
    let rest ← expect lastLine "then" rest
    let (yes, rest) ← readList lastLine false true rest fuel
    if startsWith "elif" rest then
      let (no, rest) ← readChoice lastLine rest.tail fuel
      return (.choice condition yes no, rest)
    else if startsWith "else" rest then
      let (no, rest) ← readList lastLine false true rest.tail fuel
      return (.choice condition yes no, ← expect lastLine "fi" rest)
    else return (.choice condition yes .empty, ← expect lastLine "fi" rest)

/-- Read the branches of a choice by patterns. -/
def readCases (lastLine : Nat) (word : Word) (rest : Tokens) :
    (fuel : Nat) → Except Misread (Script × Tokens)
  | 0 => .ok (.empty, [])
  | fuel + 1 => do
    let rest := afterBreaks rest
    if startsWith "esac" rest then return (.empty, rest.tail)
    let rest := if startsWith "(" rest then rest.tail else rest
    let (patterns, rest) ← patternsFrom lastLine rest
    let rest := afterBreaks rest
    let (body, rest) ←
      if startsWith ";;" rest || startsWith "esac" rest then pure (Script.empty, rest)
      else readList lastLine false false rest fuel
    if startsWith "esac" rest then
      return (.cases word patterns body .empty, rest.tail)
    let rest ← expect lastLine ";;" rest
    let (otherwise, rest) ← readCases lastLine word rest fuel
    return (.cases word patterns body otherwise, rest)

/-- Read the commands between two reserved words or signs. -/
def readBody (lastLine : Nat) (opening closing : String) (rest : Tokens) :
    (fuel : Nat) → Except Misread (Script × Tokens)
  | 0 => .ok (.empty, [])
  | fuel + 1 => do
    let rest ← expect lastLine opening rest
    let (body, rest) ← readList lastLine false true rest fuel
    return (body, ← expect lastLine closing rest)

/-- Read a command. -/
def readCommand (lastLine : Nat) (rest : Tokens) : (fuel : Nat) → Except Misread (Script × Tokens)
  | 0 => .ok (.empty, [])
  | fuel + 1 => do
    let line := (rest.head?.map (·.line)).getD lastLine
    match rest with
    | [⟨_, .word _ (some _)⟩, ⟨_, .sign "("⟩] => throw (unexpected lastLine [] (some "\")\""))
    | _ => pure ()
    match functionStart? rest with
    | some (name, rest) =>
      if !reserved.contains (String.ofList name) then
        let (body, rest) ← readCommand lastLine rest fuel
        return (.function name body, rest)
    | none => pure ()
    let compound? : Option (Except Misread (Script × Tokens)) :=
      if startsWith "if" rest then some (readChoice lastLine rest.tail fuel)
      else if startsWith "while" rest || startsWith "until" rest then some do
        let isUntil := startsWith "until" rest
        let (condition, rest) ← readList lastLine false true rest.tail fuel
        let (body, rest) ← readBody lastLine "do" "done" rest fuel
        return (.loop isUntil condition body, rest)
      else if startsWith "for" rest then some do
        match rest.tail with
        | ⟨place, .word _ (some name)⟩ :: rest =>
          if !isName name.toList then throw (.noLoopName, place)
          let rest := afterBreaks rest
          let (words?, rest) ←
            if startsWith "in" rest then
              let (words, rest) := wordsFrom rest.tail
              match rest with
              | ⟨_, .newline⟩ :: rest => pure (some words, rest)
              | _ =>
                if startsWith ";" rest then pure (some words, rest.tail)
                else throw (unexpected lastLine rest)
            else pure (none, if startsWith ";" rest then rest.tail else rest)
          let (body, rest) ← readBody lastLine "do" "done" (afterBreaks rest) fuel
          return (.each name.toList words? body, rest)
        | rest => throw (.noLoopName, (rest.head?.map (·.line)).getD lastLine)
      else if startsWith "case" rest then some do
        match rest.tail with
        | ⟨_, .word word _⟩ :: rest =>
          let rest ← expect lastLine "in" (afterBreaks rest)
          readCases lastLine word rest fuel
        | rest => throw (unexpected lastLine rest (some "word"))
      else if startsWith "(" rest then some do
        let (body, rest) ← readBody lastLine "(" ")" rest fuel
        return (.subshell body, rest)
      else if startsWith "\x7b" rest then some (readBody lastLine "\x7b" "\x7d" rest fuel)
      else none
    match compound? with
    | some reading =>
      let (body, rest) ← reading
      let (redirections, rest) ← redirectionsFrom lastLine [] rest
      return (if redirections.isEmpty then body else .redirected body line redirections, rest)
    | none =>
      match rest with
      | ⟨_, .word _ (some plain)⟩ :: _ =>
        if reserved.contains plain then throw (unexpected lastLine rest)
      | ⟨_, .word _ none⟩ :: _ | ⟨_, .redirect _ _⟩ :: _ | ⟨_, .here _ _⟩ :: _ => pure ()
      | _ => throw (unexpected lastLine rest)
      let (command, rest) ← simpleFrom lastLine { line } rest
      match rest with
      | ⟨_, .fault fault⟩ :: _ => throw (fault, line)
      | _ => return (.simple command, rest)

end

/-- Read the lines of a script, up to the first that makes no sense. -/
def readLines (lastLine : Nat) (rest : Tokens) :
    (fuel : Nat) → List Script × Option Misread
  | 0 => ([], none)
  | fuel + 1 =>
    if rest.isEmpty then ([], none)
    else
      match readList lastLine true false rest (16 * rest.length + 16) with
      | .error misread => ([], some misread)
      | .ok (script, rest) =>
        let (scripts, misread?) := readLines lastLine rest fuel
        (script :: scripts, misread?)

/-- The commands of each line of a script, and what is wrong after them, if anything. -/
def Script.parse (script : List Char) : List Script × Option Misread :=
  let tokens := tokens script
  readLines (1 + script.count '\n') tokens (tokens.length + 1)

end Emend.Host.Shell
