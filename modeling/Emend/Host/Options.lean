/-
# Options

The options among the arguments of a program: letters after one dash and names after two, some with
a value.  A name may be cut short as long as it is clear which one is meant.
-/

import Emend.Host.Naming

namespace Emend.Host

/-- An option that a program takes. -/
structure OptionForm where
  /-- Its letter. -/
  letter : Char
  /-- Its name, if it has one. -/
  long : String := ""
  hasValue : Bool := false
  deriving Repr, DecidableEq

/-- The options and the other arguments that a program is given. -/
structure GivenOptions where
  /-- The letters of the options, with their values. -/
  options : List (Char × Bytes) := []
  operands : List Bytes := []
  deriving Repr, DecidableEq

namespace GivenOptions

/-- Whether an option is given. -/
def has (given : GivenOptions) (letter : Char) : Bool := given.options.any (·.1 = letter)

/-- The last value of an option. -/
def value? (given : GivenOptions) (letter : Char) : Option Bytes :=
  (given.options.reverse.find? (·.1 = letter)).map (·.2)

/-- The last one given of some options. -/
def last? (given : GivenOptions) (letters : List Char) : Option (Char × Bytes) :=
  given.options.reverse.find? fun option => letters.contains option.1

/-- Add an option before the others. -/
def addOption (given : GivenOptions) (letter : Char) (value : Bytes) : GivenOptions :=
  { given with options := (letter, value) :: given.options }

end GivenOptions

namespace OptionForm

/-- The dash that options begin with. -/
def dash : UInt8 := 0x2D

/-- The option with a letter. -/
def ofLetter? (forms : List OptionForm) (letter : UInt8) : Option OptionForm :=
  forms.find? fun form => form.letter.toNat = letter.toNat

/-- A text in quotes after other words. -/
def about (words : String) (subject : Bytes) (after : String := "") : Bytes :=
  Bytes.ofText (words ++ " '") ++ subject ++ Bytes.ofText ("'" ++ after)

/-- The option that a name, perhaps cut short, stands for. -/
def ofLong (forms : List OptionForm) (name : Bytes) : Except Bytes OptionForm :=
  let named := forms.filter fun form =>
    !form.long.isEmpty && name.isPrefixOf (Bytes.ofText form.long)
  match named.find? fun form => Bytes.ofText form.long = name with
  | some form => .ok form
  | none =>
    match named with
    | [] => .error (about "unrecognized option" (Bytes.ofText "--" ++ name))
    | [form] => .ok form
    | _ =>
      .error (about "option" (Bytes.ofText "--" ++ name) " is ambiguous; possibilities:"
        ++ named.flatMap fun form => Bytes.ofText (" '--" ++ form.long ++ "'"))

/-- The options in letters after a dash; the last one may find its value in the next argument. -/
def ofLetters (forms : List OptionForm) (next? : Option Bytes) :
    Bytes → Except Bytes (List (Char × Bytes) × Bool)
  | [] => .ok ([], false)
  | letter :: rest =>
    match ofLetter? forms letter with
    | none => .error (about "invalid option --" [letter])
    | some form =>
      if !form.hasValue then
        (ofLetters forms next? rest).map fun (options, usedNext) =>
          ((form.letter, []) :: options, usedNext)
      else if !rest.isEmpty then .ok ([(form.letter, rest)], false)
      else
        match next? with
        | some value => .ok ([(form.letter, value)], true)
        | none => .error (about "option requires an argument --" [letter])

/-- The option in an argument after two dashes. -/
def ofName (forms : List OptionForm) (next? : Option Bytes) (text : Bytes) :
    Except Bytes ((Char × Bytes) × Bool) := do
  let name := text.takeWhile (· ≠ 0x3D)
  let form ← ofLong forms name
  let full := Bytes.ofText ("--" ++ form.long)
  match form.hasValue, text.drop name.length with
  | false, [] => return ((form.letter, []), false)
  | false, _ => throw (about "option" full " doesn't allow an argument")
  | true, _ :: value => return ((form.letter, value), false)
  | true, [] =>
    match next? with
    | some value => return ((form.letter, value), true)
    | none => throw (about "option" full " requires an argument")

/-- Take arguments apart.  If `mixed`, options may follow other arguments.  An argument that is the
value of the option before it is `taken`. -/
def parseFrom (forms : List OptionForm) (mixed taken : Bool) :
    List Bytes → Except Bytes GivenOptions
  | [] => .ok {}
  | arg :: args =>
    if taken then parseFrom forms mixed false args
    else
      match arg with
      | 0x2D :: 0x2D :: [] => .ok { operands := args }
      | 0x2D :: 0x2D :: name => do
        let ((letter, value), usedNext) ← ofName forms args.head? name
        return (← parseFrom forms mixed usedNext args).addOption letter value
      | 0x2D :: letter :: letters => do
        let (options, usedNext) ← ofLetters forms args.head? (letter :: letters)
        let given ← parseFrom forms mixed usedNext args
        return { given with options := options ++ given.options }
      | operand =>
        if mixed then do
          let given ← parseFrom forms mixed false args
          return { given with operands := operand :: given.operands }
        else .ok { operands := operand :: args }

/-- Take arguments apart. -/
def parse (forms : List OptionForm) (args : List Bytes) (mixed : Bool := true) :
    Except Bytes GivenOptions :=
  parseFrom forms mixed false args

end OptionForm

end Emend.Host
