/-
# Passing on

Filters that pass on what they read: as it is, with marks, or backwards.
-/

import Emend.Host.Call
import Emend.Host.Filter.Lines
import Emend.Host.Options

namespace Emend.Host.Filter

/-! ## One file after the other -/

/-- How lines are shown. -/
structure LineMarks where
  numbers : Bool := false
  /-- Whether empty lines have no numbers. -/
  skipEmpty : Bool := false
  ends : Bool := false
  tabs : Bool := false
  hidden : Bool := false
  /-- Whether several empty lines become one. -/
  squeeze : Bool := false

namespace LineMarks

/-- A byte as it is shown. -/
def showByte (marks : LineMarks) (b : UInt8) : Bytes :=
  let control (b : UInt8) : Bytes :=
    if b = 0x7F then [0x5E, 0x3F] else if b < 0x20 then [0x5E, b + 0x40] else [b]
  if b = 0x09 then (if marks.tabs then [0x5E, 0x49] else [b])
  else if !marks.hidden then [b]
  else if b < 0x80 then control b
  else [0x4D, 0x2D] ++ control (b - 0x80)

/-- A line as it is shown. -/
def showLine (marks : LineMarks) (line : Bytes) : Bytes :=
  let text := withoutEnd line
  let isWhole := text.length < line.length
  let body :=
    if marks.ends && !marks.hidden && isWhole && text.getLast? = some 0x0D then
      text.dropLast.flatMap marks.showByte ++ [0x5E, 0x4D]
    else text.flatMap marks.showByte
  body ++ (if isWhole then (if marks.ends then [0x24] else []) ++ [lineBreak] else [])

/-- Lines as they are shown, the first one with a number.  `wasEmpty` tells whether the line before
is empty. -/
def showFrom (marks : LineMarks) (number : Nat) (wasEmpty : Bool) : List Bytes → List Bytes
  | [] => []
  | line :: lines =>
    let isEmpty := line = [lineBreak]
    if marks.squeeze && wasEmpty && isEmpty then showFrom marks number true lines
    else if marks.numbers && !(marks.skipEmpty && isEmpty) then
      (rightAligned 6 (digits number) ++ [0x09] ++ marks.showLine line)
        :: showFrom marks (number + 1) isEmpty lines
    else marks.showLine line :: showFrom marks number isEmpty lines

end LineMarks

/-- The options for passing files on. -/
def catForms : List OptionForm :=
  [⟨'b', "number-nonblank", false⟩, ⟨'n', "number", false⟩, ⟨'s', "squeeze-blank", false⟩,
    ⟨'v', "show-nonprinting", false⟩, ⟨'E', "show-ends", false⟩, ⟨'T', "show-tabs", false⟩,
    ⟨'A', "show-all", false⟩, ⟨'e', "", false⟩, ⟨'t', "", false⟩, ⟨'u', "", false⟩]

/-- Pass files on.  Lines are counted through all of them. -/
def cat (call : Call) : Outcome :=
  match OptionForm.parse catForms call.args with
  | .error text => call.refuse text
  | .ok given =>
    let has := given.has
    let marks : LineMarks :=
      { numbers := has 'n' || has 'b'
        skipEmpty := has 'b'
        ends := has 'E' || has 'A' || has 'e'
        tabs := has 'T' || has 'A' || has 't'
        hidden := has 'v' || has 'A' || has 'e' || has 't'
        squeeze := has 's' }
    let isPlain := !(marks.numbers || marks.ends || marks.tabs || marks.hidden || marks.squeeze)
    let found := call.read given.operands
    let failures := found.filterMap fun (name, content) =>
      match content with
      | .ok _ => none
      | .error cause => some (call.refused name cause)
    let passed :=
      if isPlain then
        found.map fun (name, content) =>
          match content with
          | .ok text => (Stream.output, text)
          | .error cause => call.refused name cause
      else
        let whole := found.flatMap fun (_, content) => content.toOption.getD []
        failures ++ [(.output, (marks.showFrom 1 false (linesOf whole)).flatten)]
    { unread := call.unreadAfter given.operands
      written := passed
      status := .exited (if failures.isEmpty then 0 else 1) }

/-- The options for writing to several files. -/
def teeForms : List OptionForm :=
  [⟨'a', "append", false⟩, ⟨'i', "ignore-interrupts", false⟩, ⟨'p', "", false⟩]

/-- Pass the input on and put it into files too. -/
def tee (call : Call) : Outcome :=
  match OptionForm.parse teeForms call.args with
  | .error text => call.refuse text
  | .ok given =>
    let put (state : FileSystem × List (Stream × Bytes)) (name : Bytes) :=
      let before :=
        if given.has 'a' then (state.1.readFile name).toOption.getD [] else []
      match state.1.writeFile name (before ++ call.input) with
      | .ok files => (files, state.2)
      | .error cause => (state.1, state.2 ++ [call.refused name cause])
    let (files, failures) := given.operands.foldl put (call.files, [])
    { written := failures ++ [(.output, call.input)]
      status := .exited (if failures.isEmpty then 0 else 1)
      files? := some files }

/-! ## Backwards -/

/-- The outcome of a filter that makes something of each file by itself; `complaint` tells that a
file cannot be read. -/
def eachFile (call : Call) (names : List Bytes) (complaint : Bytes → SystemError → Bytes)
    (change : Bytes → Bytes) : Outcome :=
  let written := (call.read names).map fun (name, content) =>
    match content with
    | .ok text => (Stream.output, change text)
    | .error cause => call.message (complaint name cause)
  { unread := call.unreadAfter names
    written
    status := .exited (if written.any (·.1 = .report) then 1 else 0) }

/-- The lines of each file in reverse. -/
def tac (call : Call) : Outcome :=
  match OptionForm.parse [] call.args with
  | .error text => call.refuse text
  | .ok given =>
    let complaint (name : Bytes) (cause : SystemError) : Bytes :=
      Bytes.ofText "failed to open " ++ Naming.quote name
        ++ Bytes.ofText (" for reading: " ++ cause.reason)
    eachFile call given.operands complaint fun text => (linesOf text).reverse.flatten

/-- Each line in reverse. -/
def rev (call : Call) : Outcome :=
  match OptionForm.parse [] call.args with
  | .error text => call.refuse text
  | .ok given =>
    let complaint (name : Bytes) (cause : SystemError) : Bytes :=
      Bytes.ofText "cannot open " ++ name ++ Bytes.ofText (": " ++ cause.reason)
    eachFile call given.operands complaint fun text =>
      (linesOf text).flatMap fun line =>
        let body := withoutEnd line
        body.reverse ++ line.drop body.length

end Emend.Host.Filter
