/-
# Arithmetic

The values of expressions with whole numbers of 64 bits, variables and settings.
-/

import Emend.Host.Shell.Word

namespace Emend.Host.Shell

/-- An expression. -/
inductive Arithmetic where
  | number (n : Int)
  | named (name : List Char)
  | unary (sign : String) (value : Arithmetic)
  | binary (sign : String) (first second : Arithmetic)
  | choice (condition yes no : Arithmetic)
  /-- A setting of a variable, by itself or with a sign. -/
  | setting (name : List Char) (sign? : Option String) (value : Arithmetic)
  deriving Repr, Inhabited

namespace Arithmetic

/-! ## Reading -/

/-- A part of an expression. -/
inductive Token where
  | number (n : Nat)
  | name (chars : List Char)
  | sign (text : String)
  deriving Repr, DecidableEq

/-- What is wrong with an expression. -/
inductive Fault where
  | noOperand
  | notEnded
  | notClosed
  | noColon
  | divisionByZero
  | notANumber (text : List Char)
  deriving Repr, DecidableEq

/-- The signs with two operands, those that bind closer first. -/
def levels : List (List String) :=
  [["*", "/", "%"], ["+", "-"], ["<<", ">>"], ["<=", ">=", "<", ">"], ["==", "!="], ["&"], ["^"],
    ["|"], ["&&"], ["||"]]

/-- All signs, longer ones before those that they start with. -/
def signs : List String :=
  ["<<=", ">>=", "<<", ">>", "<=", ">=", "==", "!=", "&&", "||", "+=", "-=", "*=", "/=", "%=",
    "&=", "^=", "|=", "+", "-", "*", "/", "%", "<", ">", "&", "^", "|", "!", "~", "(", ")", "?",
    ":", "="]

/-- The value of a digit in any base. -/
def digitValue (c : Char) : Nat :=
  if c.isDigit then c.toNat - '0'.toNat else 10 + (c.toLower.toNat - 'a'.toNat)

/-- The number that some letters and digits are, in the base that the first of them tell. -/
def natural? (chars : List Char) : Option Nat :=
  let (base, digits) :=
    match chars with
    | '0' :: 'x' :: digits => (16, digits)
    | '0' :: 'X' :: digits => (16, digits)
    | '0' :: digits => (8, '0' :: digits)
    | digits => (10, digits)
  if digits.isEmpty || !digits.all fun c => c.isAlphanum && digitValue c < base then none
  else some (digits.foldl (fun n c => n * base + digitValue c) 0)

/-- The parts of an expression.  Every step takes a character, so `fuel` need not exceed their
number by more than one. -/
def tokens (chars : List Char) : (fuel : Nat) → Except Fault (List Token)
  | 0 => .ok []
  | fuel + 1 =>
    match chars with
    | [] => .ok []
    | c :: rest =>
      if c = ' ' || c = '\t' || c = '\n' then tokens rest fuel
      else if inName c then
        let word := chars.takeWhile inName
        let after := chars.drop word.length
        if c.isDigit then
          match natural? word with
          | some n => (tokens after fuel).map (.number n :: ·)
          | none => .error .notEnded
        else (tokens after fuel).map (.name word :: ·)
      else
        match signs.find? fun sign => sign.toList.isPrefixOf chars with
        | some sign => (tokens (chars.drop sign.length) fuel).map (.sign sign :: ·)
        | none => .error .noOperand

/-- A setting's sign, without the equals sign at its end. -/
def settingSign? (sign : String) : Option (Option String) :=
  if sign = "=" then some none
  else if ["<<=", ">>=", "+=", "-=", "*=", "/=", "%=", "&=", "^=", "|="].contains sign then
    some (some (String.ofList sign.toList.dropLast))
  else none

mutual

/-- Read an expression, the whole of it or the part before a bracket or a colon. -/
def readWhole (tokens : List Token) : (fuel : Nat) → Except Fault (Arithmetic × List Token)
  | 0 => .error .noOperand
  | fuel + 1 => do
    let setting? := match tokens with
      | .name name :: .sign sign :: rest => (settingSign? sign).map (name, ·, rest)
      | _ => none
    match setting? with
    | some (name, sign?, rest) =>
      let (value, rest) ← readWhole rest fuel
      return (setting name sign? value, rest)
    | none =>
      let (condition, rest) ← readLevel levels.reverse tokens fuel
      match rest with
      | .sign "?" :: rest =>
        let (yes, rest) ← readWhole rest fuel
        match rest with
        | .sign ":" :: rest =>
          let (no, rest) ← readWhole rest fuel
          return (choice condition yes no, rest)
        | _ => throw .noColon
      | _ => return (condition, rest)

/-- Read operands and the signs of some levels between them, those that bind closer last. -/
def readLevel (levels : List (List String)) (tokens : List Token) :
    (fuel : Nat) → Except Fault (Arithmetic × List Token)
  | 0 => .error .noOperand
  | fuel + 1 => do
    match levels with
    | [] => readOperand tokens fuel
    | level :: closer =>
      let (first, rest) ← readLevel closer tokens fuel
      readMore level closer first rest fuel

/-- Read on at a level, after a first operand. -/
def readMore (level : List String) (closer : List (List String)) (first : Arithmetic)
    (tokens : List Token) : (fuel : Nat) → Except Fault (Arithmetic × List Token)
  | 0 => .ok (first, tokens)
  | fuel + 1 => do
    match tokens with
    | .sign sign :: rest =>
      if level.contains sign then
        let (second, rest) ← readLevel closer rest fuel
        readMore level closer (binary sign first second) rest fuel
      else return (first, tokens)
    | _ => return (first, tokens)

/-- Read an operand. -/
def readOperand (tokens : List Token) : (fuel : Nat) → Except Fault (Arithmetic × List Token)
  | 0 => .error .noOperand
  | fuel + 1 => do
    match tokens with
    | .number n :: rest => return (number n, rest)
    | .name name :: rest => return (named name, rest)
    | .sign "(" :: rest =>
      let (inner, rest) ← readWhole rest fuel
      match rest with
      | .sign ")" :: rest => return (inner, rest)
      | _ => throw .notClosed
    | .sign sign :: rest =>
      if ["+", "-", "!", "~"].contains sign then
        let (value, rest) ← readOperand rest fuel
        return (unary sign value, rest)
      else throw .noOperand
    | [] => throw .noOperand

end

/-- Read an expression; an empty one is zero. -/
def parse (text : List Char) : Except Fault Arithmetic := do
  let tokens ← tokens text (text.length + 1)
  if tokens.isEmpty then return number 0
  match ← readWhole tokens (16 * tokens.length + 16) with
  | (expression, []) => return expression
  | _ => throw .notEnded

/-! ## Values -/

/-- The number with the same last 64 bits that a word can hold. -/
def wrap (n : Int) : Int := n.bmod (1 <<< 64)

/-- The values of variables, a later setting before an earlier one. -/
abbrev Settings := List (List Char × Int)

/-- One for a condition that holds and zero for one that does not. -/
def ofBool (holds : Bool) : Int := if holds then 1 else 0

/-- What a sign makes of two numbers. -/
def combine (sign : String) (a b : Int) : Except Fault Int :=
  let bits (n : Int) : Nat := (n % (1 <<< 64 : Nat)).toNat
  match sign with
  | "*" => .ok (wrap (a * b))
  | "/" => if b = 0 then .error .divisionByZero else .ok (wrap (a.tdiv b))
  | "%" => if b = 0 then .error .divisionByZero else .ok (a.tmod b)
  | "+" => .ok (wrap (a + b))
  | "-" => .ok (wrap (a - b))
  | "<<" => .ok (wrap (a * (1 <<< (bits b % 64) : Nat)))
  | ">>" => .ok (a.fdiv (1 <<< (bits b % 64) : Nat))
  | "<=" => .ok (ofBool (a ≤ b))
  | ">=" => .ok (ofBool (b ≤ a))
  | "<" => .ok (ofBool (a < b))
  | ">" => .ok (ofBool (b < a))
  | "==" => .ok (ofBool (a = b))
  | "!=" => .ok (ofBool (a ≠ b))
  | "&" => .ok (wrap (bits a &&& bits b : Nat))
  | "^" => .ok (wrap (bits a ^^^ bits b : Nat))
  | _ => .ok (wrap (bits a ||| bits b : Nat))

/-- The number that a text is; nothing at all is zero. -/
def ofText (text : List Char) : Except Fault Int :=
  let shown := (text.dropWhile (· = ' ')).reverse.dropWhile (· = ' ') |>.reverse
  let (isNegative, digits) := match shown with
    | '-' :: digits => (true, digits)
    | '+' :: digits => (false, digits)
    | digits => (false, digits)
  match natural? digits with
  | some n => .ok (wrap (if isNegative then -(n : Int) else n))
  | none => if shown.isEmpty then .ok 0 else .error (.notANumber text)

/-- The value of an expression; `value` are the texts of variables, and `settings` are made on the
way. -/
def eval (value : List Char → List Char) (settings : Settings) :
    Arithmetic → Except Fault (Int × Settings)
  | number n => .ok (wrap n, settings)
  | named name =>
    match settings.lookup name with
    | some n => .ok (n, settings)
    | none => do return (← ofText (value name), settings)
  | unary sign operand => do
    let (n, settings) ← eval value settings operand
    return (match sign with
      | "-" => wrap (-n)
      | "!" => ofBool (n = 0)
      | "~" => -n - 1
      | _ => n, settings)
  | binary sign first second => do
    let (a, settings) ← eval value settings first
    if sign = "&&" && a = 0 then return (0, settings)
    else if sign = "||" && a ≠ 0 then return (1, settings)
    else
      let (b, settings) ← eval value settings second
      if sign = "&&" || sign = "||" then return (ofBool (b ≠ 0), settings)
      else return (← combine sign a b, settings)
  | choice condition yes no => do
    let (n, settings) ← eval value settings condition
    if n ≠ 0 then eval value settings yes else eval value settings no
  | setting name sign? operand => do
    let (n, settings) ← eval value settings operand
    let result ← match sign? with
      | none => .ok n
      | some sign => do
        let old ← match settings.lookup name with
          | some old => .ok old
          | none => ofText (value name)
        combine sign old n
    return (result, (name, result) :: settings)

/-- A fault in words, for an expression. -/
def Fault.message (fault : Fault) (text : List Char) : String :=
  let about (words : String) : String :=
    "arithmetic expression: " ++ words ++ ": \"" ++ String.ofList text ++ "\""
  match fault with
  | noOperand => about "expecting primary"
  | notEnded => about "expecting EOF"
  | notClosed => about "expecting ')'"
  | noColon => about "expecting ':'"
  | divisionByZero => about "division by zero"
  | notANumber value => "Illegal number: " ++ String.ofList value

end Arithmetic

end Emend.Host.Shell
