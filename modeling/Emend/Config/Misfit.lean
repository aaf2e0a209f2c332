/-
# Why a document holds no configuration

A document that breaks off, is one of several or has another shape than a configuration holds none.
What is wrong with a shape is said together with the place where it is wrong, both by the steps that
lead there and by the position in the text.
-/

import Emend.Yaml.Untyped

namespace Emend

open Yaml

/-! ## Locations -/

/-- A step into a document. -/
inductive Location.Step where
  | field (name : String)
  | item (index : Nat)
  /-- The value of a key that is a reference. -/
  | unnamed
  deriving Repr, DecidableEq

/-- The steps to a location in a document, the last one first. -/
abbrev Location := List Location.Step

/-- A location in words. -/
def Location.text : Location → String
  | [] => ""
  | .item index :: outer => Location.text outer ++ "[" ++ index.repr ++ "]"
  | .field name :: outer => (if outer.isEmpty then "" else Location.text outer ++ ".") ++ name
  | .unnamed :: outer => (if outer.isEmpty then "" else Location.text outer ++ ".") ++ "?"

/-! ## Errors -/

/-- What a location should hold. -/
inductive Expected where
  | configuration
  | package
  | entry
  | literal
  | pattern
  | list
  | text
  | path
  | key
  deriving Repr, DecidableEq

/-- What a location should hold, in words. -/
def Expected.describe : Expected → String
  | configuration => "struct Configuration"
  | package => "struct Package"
  | entry => "struct Replace"
  | literal => "struct StringEntry"
  | pattern => "struct RegexEntry"
  | list => "a sequence"
  | text => "a string"
  | path => "path string"
  | key => "field identifier"

/-- What is wrong with the shape of a document. -/
inductive ShapeFault where
  | scalarFound (value : Untyped) (expected : Expected)
  | sequenceFound (expected : Expected)
  | mappingFound (expected : Expected)
  /-- A scalar has a tag that does not fit it. -/
  | tagMismatch (text : String) (tag : CoreTag)
  | duplicateField (name : String)
  | missingField (name : String)
  deriving Repr, DecidableEq

/-- What is wrong with a shape, in words. -/
def ShapeFault.message : ShapeFault → String
  | scalarFound value expected =>
    "invalid type: " ++ value.describe ++ ", expected " ++ expected.describe
  | sequenceFound expected => "invalid type: sequence, expected " ++ expected.describe
  | mappingFound expected => "invalid type: map, expected " ++ expected.describe
  | tagMismatch text tag =>
    "invalid value: string " ++ Quoted.quote text ++ ", expected " ++ tag.describe
  | duplicateField name => "duplicate field \x60" ++ name ++ "\x60"
  | missingField name => "missing field \x60" ++ name ++ "\x60"

/-- Why a document holds no configuration. -/
inductive ReadError where
  | shape (location : Location) (mark : Mark) (fault : ShapeFault)
  /-- The document breaks off. -/
  | broken (fault : Fault)
  /-- References have been followed too often. -/
  | tooManyReferences
  | moreThanOneDocument
  deriving Repr, DecidableEq

/-- Why a document holds no configuration, in words. -/
def ReadError.message : ReadError → String
  | shape location mark fault =>
    (if location.isEmpty then "" else location.text ++ ": ") ++ fault.message
      ++ (if mark.isOrigin then "" else " at " ++ mark.text)
  | broken fault => fault.message
  | tooManyReferences => "repetition limit exceeded"
  | moreThanOneDocument =>
    "deserializing from YAML containing more than one document is not supported"

end Emend
