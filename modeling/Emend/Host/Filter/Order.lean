/-
# Lines in order

Filters that sort lines, join equal ones and count them.
-/

import Emend.Host.Filter.Pass

namespace Emend.Host.Filter

/-! ## Sorting -/

/-- How bytes stand in order. -/
def compareBytes : Bytes → Bytes → Ordering
  | [], [] => .eq
  | [], _ :: _ => .lt
  | _ :: _, [] => .gt
  | a :: first, b :: second => (compare a b).then (compareBytes first second)

/-- The number at the start of a line: its sign, its whole part and the digits of its fraction,
which have no zeros at their end. -/
def leadingNumber (line : Bytes) : Bool × Nat × Bytes :=
  let text := line.dropWhile isBlank
  let isNegative := text.head? = some 0x2D
  let body := if isNegative then text.tail else text
  let whole := body.takeWhile isDigit
  let fraction := match body.drop whole.length with
    | 0x2E :: rest => rest.takeWhile isDigit
    | _ => []
  (isNegative, numeral whole, (fraction.reverse.dropWhile (· = 0x30)).reverse)

/-- How the numbers at the start of two lines stand in order. -/
def compareNumbers (first second : Bytes) : Ordering :=
  let order (a b : Nat × Bytes) : Ordering := (compare a.1 b.1).then (compareBytes a.2 b.2)
  let (isNegative, value) := leadingNumber first
  let (isOtherNegative, other) := leadingNumber second
  let isZero (value : Nat × Bytes) : Bool := value.1 = 0 && value.2.isEmpty
  match isNegative && !isZero value, isOtherNegative && !isZero other with
  | true, true => order other value
  | true, false => .lt
  | false, true => .gt
  | false, false => order value other

/-- A byte as a capital letter, if it is a letter. -/
def upper (b : UInt8) : UInt8 := if 0x61 ≤ b && b ≤ 0x7A then b - 0x20 else b

/-- The options for sorting. -/
def sortForms : List OptionForm :=
  [⟨'f', "ignore-case", false⟩, ⟨'n', "numeric-sort", false⟩, ⟨'r', "reverse", false⟩,
    ⟨'s', "stable", false⟩, ⟨'u', "unique", false⟩]

/-- Lines of which none is equal in order to the one before it. -/
def withoutEqual (order : Bytes → Bytes → Ordering) : List Bytes → List Bytes
  | first :: second :: rest =>
    if order first second = .eq then withoutEqual order (first :: rest)
    else first :: withoutEqual order (second :: rest)
  | lines => lines
termination_by lines => lines.length

/-- The lines of all files in order. -/
def sort (call : Call) : Outcome :=
  match OptionForm.parse sortForms call.args with
  | .error text => call.refuse text 2
  | .ok given =>
    let found := call.read given.operands
    let failure? := found.findSome? fun (name, content) =>
      match content with
      | .ok _ => none
      | .error cause =>
        some (Bytes.ofText "cannot read: " ++ Naming.written name
          ++ Bytes.ofText (": " ++ cause.reason))
    match failure? with
    | some text => call.fail text 2
    | none =>
      let lines := found.flatMap fun (_, content) => textLines (content.toOption.getD [])
      let key (first second : Bytes) : Ordering :=
        if given.has 'n' then compareNumbers first second
        else if given.has 'f' then compareBytes (first.map upper) (second.map upper)
        else compareBytes first second
      let turned (order : Ordering) : Ordering := if given.has 'r' then order.swap else order
      let full (first second : Bytes) : Ordering :=
        if given.has 's' || given.has 'u' then turned (key first second)
        else (turned (key first second)).then (turned (compareBytes first second))
      let sorted := lines.mergeSort fun first second => full first second ≠ .gt
      let kept := if given.has 'u' then withoutEqual key sorted else sorted
      { unread := call.unreadAfter given.operands
        written := [(.output, kept.flatMap (· ++ [lineBreak]))] }

/-! ## Equal lines -/

/-- The options for joining equal lines. -/
def uniqForms : List OptionForm :=
  [⟨'c', "count", false⟩, ⟨'d', "repeated", false⟩, ⟨'i', "ignore-case", false⟩,
    ⟨'u', "unique", false⟩]

/-- Lines that are equal to the ones before them joined: the first one of each kind, and how many
there are; `line` is the present one. -/
def joinEqual (alike : Bytes → Bytes → Bool) (line : Bytes) (count : Nat) :
    List Bytes → List (Bytes × Nat)
  | [] => [(line, count)]
  | next :: rest =>
    if alike line next then joinEqual alike line (count + 1) rest
    else (line, count) :: joinEqual alike next 1 rest

/-- One of several equal lines that follow one another. -/
def uniq (call : Call) : Outcome :=
  match OptionForm.parse uniqForms call.args with
  | .error text => call.refuse text
  | .ok given =>
    match call.read (given.operands.take 1) with
    | (name, .error cause) :: _ =>
      call.fail (Naming.written name ++ Bytes.ofText (": " ++ cause.reason))
    | (_, .ok text) :: _ =>
      let alike (first second : Bytes) : Bool :=
        if given.has 'i' then first.map upper = second.map upper else first = second
      let joined := match textLines text with
        | [] => []
        | line :: rest => joinEqual alike line 1 rest
      let kept := joined.filter fun (_, count) =>
        (!given.has 'd' || 1 < count) && (!given.has 'u' || count = 1)
      let shown := kept.flatMap fun (line, count) =>
        (if given.has 'c' then rightAligned 7 (digits count) ++ [0x20] else []) ++ line
          ++ [lineBreak]
      { unread := call.unreadAfter given.operands, written := [(.output, shown)] }
    | [] => { unread := call.input }

/-! ## Counting -/

/-- The options for counting. -/
def wcForms : List OptionForm :=
  [⟨'c', "bytes", false⟩, ⟨'l', "lines", false⟩, ⟨'m', "chars", false⟩, ⟨'w', "words", false⟩]

/-- The number of words of a text. -/
def wordCount (inWord : Bool) : Bytes → Nat
  | [] => 0
  | b :: rest =>
    if isSpace b then wordCount false rest
    else (if inWord then 0 else 1) + wordCount true rest

/-- Count lines, words and bytes. -/
def wc (call : Call) : Outcome :=
  match OptionForm.parse wcForms call.args with
  | .error text => call.refuse text
  | .ok given =>
    let asked := ['l', 'w', 'm', 'c'].filter fun letter =>
      if given.options.isEmpty then letter ≠ 'm' else given.has letter
    let counts (text : Bytes) : List Nat := asked.map fun letter =>
      match letter with
      | 'l' => text.count lineBreak
      | 'w' => wordCount false text
      | _ => text.length
    let width := if asked.length = 1 && given.operands.length ≤ 1 then 1 else 7
    let row (numbers : List Nat) (name : Bytes) : Bytes :=
      ([0x20] : Bytes).intercalate (numbers.map fun n => rightAligned width (digits n))
        ++ (if name.isEmpty then [] else 0x20 :: name) ++ [lineBreak]
    let found := call.read given.operands
    let rows := found.map fun (name, content) =>
      match content with
      | .ok text =>
        (Stream.output, row (counts text) (if given.operands.isEmpty then [] else name))
      | .error cause => call.refused name cause
    let whole := found.flatMap fun (_, content) => content.toOption.getD []
    let total := if 1 < found.length then
        [(Stream.output, row (counts whole) (Bytes.ofText "total"))]
      else []
    { unread := call.unreadAfter given.operands
      written := rows ++ total
      status := .exited (if rows.any (·.1 = .report) then 1 else 0) }

end Emend.Host.Filter
