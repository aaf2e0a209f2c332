/-
# Reading a configuration from a document

A configuration is read from the nodes of a document: mappings with known keys, lists and texts.
Keys that are not known are passed over, a list may be left out or empty, and every scalar is taken
as the text that it is written with.  Where the document has another shape the reading ends, and the
error says where.
-/

import Emend.Config.Basic
import Emend.Config.Misfit

namespace Emend

open Yaml

/-! ## Readings -/

/-- A reading of a document, which counts the references that it follows. -/
abbrev Reading := ReaderT Document (StateT Nat (Except ReadError))

namespace Reading

/-- The number of references that may be followed for each event of the document. -/
def referencesPerEvent : Nat := 100

/-- The end of a reading that meets the point where the document breaks off. -/
def breakOff {α : Type} : Reading α := do
  match (← read).ending with
  | .broken fault => throw (.broken fault)
  | _ => throw (.broken { problem := .endOfStream })

/-- The end of a reading that meets a wrong shape. -/
def refuse {α : Type} (location : Location) (mark : Mark) (fault : ShapeFault) : Reading α :=
  throw (.shape location mark fault)

/-- The node that a node stands for: its own, or the one that it refers to. -/
def resolve (node : Node) : Reading Node := do
  match node with
  | .alias anchor =>
    let document ← read
    let count := (← get) + 1
    set count
    if document.eventCount * referencesPerEvent < count then throw .tooManyReferences
    return (document.target? anchor).getD .hole
  | node => return node

/-- The end of a reading that meets a scalar where it should not. -/
def refuseScalar {α : Type} (location : Location) (mark : Mark) (tag : Option Bytes)
    (text : List Char)
    (isPlain : Bool) (expected : Expected) : Reading α :=
  match Untyped.ofScalar tag text isPlain with
  | .ok value => refuse location mark (.scalarFound value expected)
  | .error tag => refuse location mark (.tagMismatch (String.ofList text) tag)

/-- Read a text. -/
def text (expected : Expected) (location : Location) (node : Node) : Reading String := do
  match ← resolve node with
  | .scalar _ _ text _ => return String.ofList text
  | .sequence mark _ => refuse location mark (.sequenceFound expected)
  | .mapping mark _ => refuse location mark (.mappingFound expected)
  | .alias _ => breakOff
  | .hole => breakOff

mutual

/-- Whether a document does not break off in a node. -/
def isComplete : Node → Bool
  | .sequence _ items => areComplete items
  | .mapping _ entries => pairsAreComplete entries
  | .hole => false
  | _ => true

/-- Whether a document does not break off in any of several nodes. -/
def areComplete : List Node → Bool
  | [] => true
  | node :: nodes => isComplete node && areComplete nodes

/-- Whether a document does not break off in any of several pairs. -/
def pairsAreComplete : List (Node × Node) → Bool
  | [] => true
  | (key, value) :: pairs => isComplete key && isComplete value && pairsAreComplete pairs

end

/-- Pass over a node. -/
def ignore (node : Node) : Reading Unit :=
  if isComplete node then pure () else breakOff

/-! ## Lists -/

/-- Read items, the first of which has the given index. -/
def items {α : Type} (readItem : Location → Node → Reading α) (location : Location)
    (index : Nat) : List Node → Reading (List α)
  | [] => return []
  | node :: nodes => do
    let first ← readItem (.item index :: location) node
    return first :: (← items readItem location (index + 1) nodes)

/-- Whether a scalar stands for a list without items.  A scalar with the tag for nothing that does
not fit it is refused at the mapping around, which starts at `outer`. -/
def isEmptyList (outer : Location × Mark) (tag : Option Bytes) (text : List Char)
    (isPlain : Bool) : Reading Bool :=
  let isNull := Untyped.isNull (String.ofList text)
  match tag with
  | none => pure (isPlain && (text.isEmpty || isNull))
  | some name =>
    if CoreTag.ofName? name = some .null && isPlain then
      if isNull then pure true
      else refuse outer.1 outer.2 (.tagMismatch (String.ofList text) .null)
    else pure (isPlain && text.isEmpty)

/-- Read a list, which may be written as nothing. -/
def list {α : Type} (readItem : Location → Node → Reading α) (outer : Location × Mark)
    (location : Location) (node : Node) : Reading (List α) := do
  match ← resolve node with
  | .scalar mark tag text isPlain =>
    if ← isEmptyList outer tag text isPlain then return []
    else refuseScalar location mark tag text isPlain .list
  | .sequence _ nodes => items readItem location 0 nodes
  | .mapping mark _ => refuse location mark (.mappingFound .list)
  | .alias _ => breakOff
  | .hole => breakOff

/-! ## Records -/

/-- How a mapping with known keys is read. -/
structure RecordShape (Parts α : Type) where
  expected : Expected
  /-- What has been read before the first key. -/
  start : Parts
  /-- Read the value of a known key, given the mapping around and the location of the value. -/
  field? : String → Option (Location × Mark → Location → Node → Parts → Reading Parts)
  /-- The record, or the name of a key that is missing. -/
  finish : Parts → Except String α

/-- Read the value of a key, which must not have been read before. -/
def once {β : Type} (name : String) (earlier : Option β) (outer : Location × Mark)
    (reading : Reading β) : Reading (Option β) := do
  if earlier.isSome then refuse outer.1 outer.2 (.duplicateField name)
  return some (← reading)

/-- The step to the value of a key. -/
def stepTo (key : Node) (name : String) : Location.Step :=
  match key with
  | .scalar .. => .field name
  | _ => .unnamed

/-- Read the keys and values of a mapping. -/
def fields {Parts α : Type} (shape : RecordShape Parts α) (outer : Location × Mark)
    (parts : Parts) : List (Node × Node) → Reading Parts
  | [] => return parts
  | (key, value) :: pairs => do
    let name ← text .key outer.1 key
    let location := stepTo key name :: outer.1
    match shape.field? name with
    | some readField => fields shape outer (← readField outer location value parts) pairs
    | none =>
      ignore value
      fields shape outer parts pairs

/-- The record that has been read. -/
def complete {Parts α : Type} (shape : RecordShape Parts α) (outer : Location × Mark)
    (parts : Parts) : Reading α :=
  match shape.finish parts with
  | .ok record => pure record
  | .error name => refuse outer.1 outer.2 (.missingField name)

/-- Read a record.  An empty plain scalar stands for a mapping without keys. -/
def record {Parts α : Type} (shape : RecordShape Parts α) (location : Location) (node : Node) :
    Reading α := do
  match ← resolve node with
  | .mapping mark pairs =>
    complete shape (location, mark) (← fields shape (location, mark) shape.start pairs)
  | .scalar mark tag text isPlain =>
    if text.isEmpty && isPlain then complete shape (location, mark) shape.start
    else refuseScalar location mark tag text isPlain shape.expected
  | .sequence mark _ => refuse location mark (.sequenceFound shape.expected)
  | .alias _ => breakOff
  | .hole => breakOff

/-! ## Configurations -/

/-- What has been read of a substitution. -/
structure SubstitutionParts where
  find : Option String := none
  replacement : Option String := none

/-- How a substitution is read.  The replacement may be left out. -/
def substitutionShape (expected : Expected) : RecordShape SubstitutionParts Substitution where
  expected
  start := {}
  field?
    | "match" => some fun outer location node parts => do
      let find ← once "match" parts.find outer (text .text location node)
      return { parts with find }
    | "replacement" => some fun outer location node parts => do
      let replacement ← once "replacement" parts.replacement outer (text .text location node)
      return { parts with replacement }
    | _ => none
  finish parts :=
    match parts.find with
    | some find => .ok { find, replacement := parts.replacement.getD "" }
    | none => .error "match"

/-- What has been read of an entry. -/
structure EntryParts where
  file : Option String := none
  literals : Option (List Substitution) := none
  patterns : Option (List Substitution) := none

/-- How an entry is read.  The file must be given. -/
def entryShape : RecordShape EntryParts Entry where
  expected := .entry
  start := {}
  field?
    | "file" => some fun outer location node parts => do
      let file ← once "file" parts.file outer (text .path location node)
      return { parts with file }
    | "strings" => some fun outer location node parts => do
      let literals ← once "strings" parts.literals outer
        (list (record (substitutionShape .literal)) outer location node)
      return { parts with literals }
    | "regexps" => some fun outer location node parts => do
      let patterns ← once "regexps" parts.patterns outer
        (list (record (substitutionShape .pattern)) outer location node)
      return { parts with patterns }
    | _ => none
  finish parts :=
    match parts.file with
    | some file =>
      .ok { file, literals := parts.literals.getD [], patterns := parts.patterns.getD [] }
    | none => .error "file"

/-- How a package is read. -/
def packageShape : RecordShape (Option (List Entry)) Package where
  expected := .package
  start := none
  field?
    | "regenerates" => some fun outer location node earlier =>
      once "regenerates" earlier outer (list (record entryShape) outer location node)
    | _ => none
  finish entries := .ok { entries := entries.getD [] }

/-- How a configuration is read. -/
def configurationShape : RecordShape (Option (List Package)) Configuration where
  expected := .configuration
  start := none
  field?
    | "packages" => some fun outer location node earlier =>
      once "packages" earlier outer (list (record packageShape) outer location node)
    | _ => none
  finish packages := .ok { packages := packages.getD [] }

/-- Read the configuration that a node holds. -/
def configuration (node : Node) : Reading Configuration :=
  record configurationShape [] node

end Reading

/-- The configuration that a document holds.  A text without a document holds the empty one, and
nothing may follow the document. -/
def Yaml.Document.configuration (document : Document) : Except ReadError Configuration := do
  let config ←
    match document.root with
    | some node => (·.1) <$> (Reading.configuration node document).run 0
    | none => pure {}
  match document.ending with
  | .only => return config
  | .more => throw .moreThanOneDocument
  | .broken fault => throw (.broken fault)

end Emend
