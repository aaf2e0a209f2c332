/-
# Reading UTF-8 out of arbitrary bytes

`scalar?` reads the one Unicode scalar whose encoding starts at a position, if there is one.  On it
rest the three readings of a content that the library needs:

* `segments` cuts a content into characters, giving every byte outside a character a segment of
  its own;
* `chunk` walks over a longest well-formed run and the ill-formed sequence that ends it;
* `lossy` turns a content into text, with one replacement character for each ill-formed sequence.
-/

import Emend.Text.Bytes

namespace Emend.Utf8

/-- Bytes that may follow the first byte of an encoded scalar. -/
def isTail (b : UInt8) : Bool :=
  0x80 ≤ b && b ≤ 0xBF

/-- Second bytes that may follow the first byte `lead` of a scalar encoded in three or four bytes.
The narrower ranges rule out overlong forms, surrogates and values above U+10FFFF. -/
def isSecond (lead b : UInt8) : Bool :=
  if lead = 0xE0 then 0xA0 ≤ b && b ≤ 0xBF
  else if lead = 0xED then 0x80 ≤ b && b ≤ 0x9F
  else if lead = 0xF0 then 0x90 ≤ b && b ≤ 0xBF
  else if lead = 0xF4 then 0x80 ≤ b && b ≤ 0x8F
  else isTail b

/-- The scalar that the bytes `lead`, `b₁`, `b₂`, `b₃` start with, and the number of bytes it
takes.  A byte that lies beyond the end of the content is `none`. -/
def scalarOf (lead : UInt8) (b₁ b₂ b₃ : Option UInt8) : Option (Char × Nat) :=
  if lead < 0x80 then
    some (Char.ofNat lead.toNat, 1)
  else if lead < 0xC2 then
    none
  else if lead < 0xE0 then
    match b₁ with
    | some x =>
      if isTail x then some (Char.ofNat ((lead.toNat - 0xC0) * 64 + (x.toNat - 0x80)), 2) else none
    | none => none
  else if lead < 0xF0 then
    match b₁, b₂ with
    | some x, some y =>
      if isSecond lead x && isTail y then
        some (Char.ofNat
          ((lead.toNat - 0xE0) * 4096 + (x.toNat - 0x80) * 64 + (y.toNat - 0x80)), 3)
      else none
    | _, _ => none
  else if lead < 0xF5 then
    match b₁, b₂, b₃ with
    | some x, some y, some z =>
      if isSecond lead x && isTail y && isTail z then
        some (Char.ofNat
          ((lead.toNat - 0xF0) * 262144 + (x.toNat - 0x80) * 4096 + (y.toNat - 0x80) * 64
            + (z.toNat - 0x80)), 4)
      else none
    | _, _, _ => none
  else
    none

/-- The scalar whose encoding starts `content`, with the number of bytes it takes. -/
def scalar? : Bytes → Option (Char × Nat)
  | [] => none
  | lead :: rest => scalarOf lead rest[0]? rest[1]? rest[2]?

/-- The scalar whose encoding starts at `position`, with the number of bytes it takes. -/
def scalarAt? (content : Array UInt8) (position : Nat) : Option (Char × Nat) :=
  match content[position]? with
  | none => none
  | some lead =>
    if lead < 0x80 then some (Char.ofNat lead.toNat, 1)
    else scalarOf lead content[position + 1]? content[position + 2]? content[position + 3]?

/-- The number of bytes, at least one, of the ill-formed sequence that starts with `lead`: the
bytes that could still have become a scalar, up to the first that could not. -/
def illFormedLength (lead : UInt8) (rest : Bytes) : Nat :=
  if lead < 0xE0 || 0xF5 ≤ lead then 1
  else
    match rest with
    | x :: rest' =>
      if isSecond lead x then
        if lead < 0xF0 then 2
        else
          match rest' with
          | y :: _ => if isTail y then 3 else 2
          | [] => 2
      else 1
    | [] => 1

/-! ## Segments -/

/-- The segments of a content, in order, after those of `done`, which are kept in reverse.  The
number `pending` says how many bytes still belong to the segment `current`, also kept in reverse. -/
def segmentsFrom (pending : Nat) (current : Bytes) (done : List Bytes) : Bytes → List Bytes
  | [] => (if current.isEmpty then done else current.reverse :: done).reverse
  | b :: rest =>
    match pending with
    | more + 1 => segmentsFrom more (b :: current) done rest
    | 0 =>
      let done := if current.isEmpty then done else current.reverse :: done
      match scalar? (b :: rest) with
      | some (_, length) => segmentsFrom (length - 1) [b] done rest
      | none => segmentsFrom 0 [b] done rest

/-- The content cut into the encodings of scalars and, where no scalar starts, single bytes. -/
def segments (content : Bytes) : List Bytes :=
  segmentsFrom 0 [] [] content

/-! ## Chunks -/

/-- A longest well-formed run of a content and what ends it. -/
structure Chunk where
  /-- The characters of the run. -/
  valid : List Char
  /-- The ill-formed sequence that follows the run; empty at the end of the content. -/
  invalid : Bytes
  deriving Repr, DecidableEq

/-- The chunks of a content.  While `pending` is positive the bytes read belong to the scalar or
the ill-formed sequence last begun; `valid` and `invalid` hold, in reverse, what the chunk under
way has so far. -/
def chunksFrom (pending : Nat) (valid : List Char) (invalid : Bytes) (done : List Chunk) :
    Bytes → List Chunk
  | [] =>
    (if valid.isEmpty && invalid.isEmpty then done
      else ⟨valid.reverse, invalid.reverse⟩ :: done).reverse
  | b :: rest =>
    match pending with
    | more + 1 =>
      if invalid.isEmpty then chunksFrom more valid [] done rest
      else chunksFrom more valid (b :: invalid) done rest
    | 0 =>
      if invalid.isEmpty then
        match scalar? (b :: rest) with
        | some (c, length) => chunksFrom (length - 1) (c :: valid) [] done rest
        | none => chunksFrom (illFormedLength b rest - 1) valid [b] done rest
      else
        let done := ⟨valid.reverse, invalid.reverse⟩ :: done
        match scalar? (b :: rest) with
        | some (c, length) => chunksFrom (length - 1) [c] [] done rest
        | none => chunksFrom (illFormedLength b rest - 1) [] [b] done rest

/-- The content as well-formed runs, each with the ill-formed sequence that ends it. -/
def chunks (content : Bytes) : List Chunk :=
  chunksFrom 0 [] [] [] content

/-- The content as text, each ill-formed sequence shown as one U+FFFD. -/
def lossy (content : Bytes) : String :=
  String.ofList <| (chunks content).flatMap fun chunk =>
    chunk.valid ++ if chunk.invalid.isEmpty then [] else ['\uFFFD']

/-- The content as characters, when all of it is well formed. -/
def chars? (content : Bytes) : Option (List Char) :=
  match chunks content with
  | [] => some []
  | [chunk] => if chunk.invalid.isEmpty then some chunk.valid else none
  | _ => none

/-- The content as text, when all of it is well formed. -/
def text? (content : Bytes) : Option String :=
  (chars? content).map String.ofList

end Emend.Utf8
