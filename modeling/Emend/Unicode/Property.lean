/-
# Unicode properties

`Property.named` and `Property.valued` find the set that a property query stands for.  Names are
compared loosely: case, blanks, hyphens and underscores do not count, nor does a leading `is`.
The other definitions are the sets that the library itself needs.
-/

import Emend.Unicode.Ranges
import Emend.Unicode.Age
import Emend.Unicode.Binary
import Emend.Unicode.Break
import Emend.Unicode.CaseOrbit
import Emend.Unicode.Category
import Emend.Unicode.Later
import Emend.Unicode.Names
import Emend.Unicode.Script
import Emend.Unicode.ScriptExtension

namespace Emend.Unicode.Property

/-- Why a property query has no answer. -/
inductive QueryError where
  /-- No property has the name. -/
  | unknownProperty
  /-- The property has no such value, or its values are not on record. -/
  | unknownValue
  deriving Repr, DecidableEq

/-! ## Look-up in the tables -/

/-- The set written under a name in a table. -/
def lookup? (table : List (String × String)) (name : String) : Option Ranges :=
  (table.lookup name).map Ranges.ofTable

/-- The union of the sets written under several names. -/
def unionOf (table : List (String × String)) (names : List String) : Ranges :=
  Ranges.ofRanges <| names.flatMap fun name => ((lookup? table name).getD .empty).toList

/-- The general categories that make up a group of categories. -/
def categoryMembers (name : String) : List String :=
  match name with
  | "Cased_Letter" => ["Uppercase_Letter", "Lowercase_Letter", "Titlecase_Letter"]
  | "Letter" => ["Uppercase_Letter", "Lowercase_Letter", "Titlecase_Letter", "Modifier_Letter",
      "Other_Letter"]
  | "Mark" => ["Nonspacing_Mark", "Spacing_Mark", "Enclosing_Mark"]
  | "Number" => ["Decimal_Number", "Letter_Number", "Other_Number"]
  | "Punctuation" => ["Connector_Punctuation", "Dash_Punctuation", "Open_Punctuation",
      "Close_Punctuation", "Initial_Punctuation", "Final_Punctuation", "Other_Punctuation"]
  | "Symbol" => ["Math_Symbol", "Currency_Symbol", "Modifier_Symbol", "Other_Symbol"]
  | "Separator" => ["Space_Separator", "Line_Separator", "Paragraph_Separator"]
  | "Other" => ["Control", "Format", "Unassigned", "Private_Use"]
  | other => [other]

/-- The code points of a general category or a group of them. -/
def category? (name : String) : Option Ranges :=
  let members := categoryMembers name
  if members.all fun member => (categoryTable.lookup member).isSome then
    some (unionOf categoryTable members)
  else none

/-- The code points of a binary property. -/
def binary? (name : String) : Option Ranges :=
  lookup? binaryTable name

/-- The code points of a script. -/
def script? (name : String) : Option Ranges :=
  lookup? scriptTable name

/-- The code points used in texts of a script. -/
def scriptExtension? (name : String) : Option Ranges := do
  let own ← script? name
  let added := (lookup? scriptExtensionTable name).getD .empty
  let removed := (lookup? scriptExclusionTable name).getD .empty
  return (own.union added).diff Ranges.maxScalar removed

/-- The code points assigned in a version of the standard or an earlier one. -/
def age? (version : String) : Option Ranges := do
  let names := ageTable.map (·.1)
  let index ← names.findIdx? (· == version)
  return unionOf ageTable (names.take (index + 1))

/-! ## Loose names -/

/-- The characters of a name that count, in lower case. -/
def significant (chars : List Char) : List Char :=
  chars.filterMap fun c =>
    if c = ' ' || c = '_' || c = '-' || 0x80 ≤ c.toNat then none
    else some c.toLower

/-- The form in which names are compared.  A leading `is` is dropped, except from `isc`, which
names a property of its own. -/
def looseName (name : String) : String :=
  match name.toList with
  | i :: s :: rest =>
    if i.toLower = 'i' && s.toLower = 's' then
      match significant rest with
      | ['c'] => "isc"
      | short => String.ofList short
    else String.ofList (significant (i :: s :: rest))
  | short => String.ofList (significant short)

/-- The category, or one of the three sets named like one, under a loose name. -/
def looseCategory? (name : String) : Option (Except QueryError Ranges) :=
  match name with
  | "any" => some (.ok (.interval 0 Ranges.maxScalar))
  | "ascii" => some (.ok (.interval 0 0x7F))
  | "assigned" =>
    some (.ok (((category? "Unassigned").getD .empty).complement Ranges.maxScalar))
  | _ =>
    (categoryNames.lookup name).map fun full =>
      match category? full with
      | some set => .ok set
      | none => .error .unknownValue

/-- The script under a loose name. -/
def looseScript? (name : String) : Option (Except QueryError Ranges) :=
  (scriptNames.lookup name).map fun full =>
    match script? full with
    | some set => .ok set
    | none => .error .unknownValue

/-! ## Queries -/

/-- The set that one name stands for: a binary property, a general category or a script, in this
order.  Three short names of categories are also short names of properties that are not binary;
they stand for the categories. -/
def named (name : String) : Except QueryError Ranges :=
  let loose := looseName name
  let property? :=
    if loose = "cf" || loose = "sc" || loose = "lc" then none else propertyNames.lookup loose
  match property? with
  | some property =>
    match binary? property with
    | some set => .ok set
    | none => .error .unknownProperty
  | none =>
    match looseCategory? loose with
    | some answer => answer
    | none =>
      match looseScript? loose with
      | some answer => answer
      | none => .error .unknownProperty

/-- The set of the code points at which a property has a value. -/
def valued (property value : String) : Except QueryError Ranges :=
  let looseValue := looseName value
  match propertyNames.lookup (looseName property) with
  | none => .error .unknownProperty
  | some "General_Category" => (looseCategory? looseValue).getD (.error .unknownValue)
  | some "Script" => (looseScript? looseValue).getD (.error .unknownValue)
  | some full =>
    let answer? : Option Ranges :=
      match full with
      | "Script_Extensions" => (scriptNames.lookup looseValue).bind scriptExtension?
      | "Age" => (ageNames.lookup looseValue).bind age?
      | "Grapheme_Cluster_Break" =>
        (graphemeBreakNames.lookup looseValue).bind (lookup? graphemeBreakTable)
      | "Word_Break" => (wordBreakNames.lookup looseValue).bind (lookup? wordBreakTable)
      | "Sentence_Break" => (sentenceBreakNames.lookup looseValue).bind (lookup? sentenceBreakTable)
      | _ => none
    match answer? with
    | some set => .ok set
    | none => .error .unknownValue

/-! ## Sets that the library uses -/

/-- White space. -/
def whiteSpace : Ranges := (binary? "White_Space").getD .empty

/-- Letters and what else is used like them. -/
def alphabetic : Ranges := (binary? "Alphabetic").getD .empty

/-- Decimal digits of every script. -/
def decimal : Ranges := (category? "Decimal_Number").getD .empty

/-- Numbers of every kind. -/
def numeric : Ranges := (category? "Number").getD .empty

/-- Marks that attach to the character before them. -/
def graphemeExtend : Ranges := (binary? "Grapheme_Extend").getD .empty

/-- The characters of words: alphabetic ones, marks, decimal digits, connecting punctuation and
the two joiners. -/
def word : Ranges :=
  Ranges.ofRanges <| alphabetic.toList ++ decimal.toList
    ++ ((category? "Mark").getD .empty).toList
    ++ ((category? "Connector_Punctuation").getD .empty).toList
    ++ ((binary? "Join_Control").getD .empty).toList

/-! ### Characters of texts

Patterns know the characters of one version of the standard, texts also those of the next one. -/

/-- What the later version added under a name. -/
def later (name : String) : Ranges := (lookup? laterTable name).getD .empty

/-- Letters and what else is used like them, of the later version too. -/
def textAlphabetic : Ranges := alphabetic.union (later "Alphabetic")

/-- Numbers of every kind, of the later version too. -/
def textNumeric : Ranges := numeric.union (later "Number")

/-- Marks that attach to the character before them, of the later version too; two sound marks that
are letters of their own are not among them. -/
def attached : Ranges :=
  ((graphemeExtend.union (later "Grapheme_Extend")).diff Ranges.maxScalar
    ((category? "Modifier_Letter").getD .empty))

/-- Code points without a visible form of their own: controls, format characters, separators other
than the space, private code points, those that not even the later version has assigned, and
fillers. -/
def invisible : Ranges :=
  let unseen := unionOf categoryTable ["Control", "Format", "Unassigned", "Private_Use",
    "Space_Separator", "Line_Separator", "Paragraph_Separator"]
  let ignorable := (binary? "Default_Ignorable_Code_Point").getD .empty
  (unseen.union ignorable).diff Ranges.maxScalar ((later "Assigned").union (.single 0x20))

/-- Whether a character is white space. -/
def isWhiteSpace (c : Char) : Bool := whiteSpace.contains c.toNat

/-- Whether a character is alphabetic. -/
def isAlphabetic (c : Char) : Bool := textAlphabetic.contains c.toNat

/-- Whether a character is alphabetic or a number. -/
def isAlphanumeric (c : Char) : Bool := isAlphabetic c || textNumeric.contains c.toNat

/-- Whether a character belongs to words. -/
def isWord (c : Char) : Bool := word.contains c.toNat

/-! ## Case -/

/-- The orbits of case folding, from their table. -/
def readOrbits (table : String) : List (List Nat) :=
  ((table.split ';').toList.map fun orbit =>
    (Ranges.ofTable orbit.toString).toList.map (·.1)).filter (!·.isEmpty)

/-- The groups of characters that differ in case only. -/
def caseOrbits : List (List Nat) := readOrbits caseOrbitTable

/-- The set with every character that differs from a member in case only. -/
def foldCase (set : Ranges) : Ranges :=
  Ranges.ofRanges <| set.toList ++
    (caseOrbits.filter fun orbit => orbit.any set.contains).flatMap fun orbit =>
      orbit.map fun n => (n, n)

end Emend.Unicode.Property
