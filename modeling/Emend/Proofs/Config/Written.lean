/-
# Configurations written in one line

The packages of a configuration can be written as a document in one line, every text in double
quotes with all its characters escaped.  Reading it gives back the packages: what is written last is
read first, so the ways of reading texts, lists and records are shown one after the other to take
back the ways of writing them.
-/

import Emend.Config.Parse
import Emend.Proofs.Yaml.Flow.Document

namespace Emend

open Yaml

/-! ## Writing -/

def Substitution.matchKey : Flow.Key := ⟨['m', 'a', 't', 'c', 'h'], by decide, by decide⟩

def Substitution.replacementKey : Flow.Key :=
  ⟨['r', 'e', 'p', 'l', 'a', 'c', 'e', 'm', 'e', 'n', 't'], by decide, by decide⟩

def Entry.fileKey : Flow.Key := ⟨['f', 'i', 'l', 'e'], by decide, by decide⟩

def Entry.stringsKey : Flow.Key := ⟨['s', 't', 'r', 'i', 'n', 'g', 's'], by decide, by decide⟩

def Entry.regexpsKey : Flow.Key := ⟨['r', 'e', 'g', 'e', 'x', 'p', 's'], by decide, by decide⟩

def Package.regeneratesKey : Flow.Key :=
  ⟨['r', 'e', 'g', 'e', 'n', 'e', 'r', 'a', 't', 'e', 's'], by decide, by decide⟩

def Configuration.packagesKey : Flow.Key :=
  ⟨['p', 'a', 'c', 'k', 'a', 'g', 'e', 's'], by decide, by decide⟩

/-- A substitution as it is written. -/
def Substitution.flow (substitution : Substitution) : Flow :=
  .mapping [(matchKey, .text substitution.find.toList),
    (replacementKey, .text substitution.replacement.toList)]

/-- An entry as it is written. -/
def Entry.flow (entry : Entry) : Flow :=
  .mapping [(fileKey, .text entry.file.toList),
    (stringsKey, .sequence (entry.literals.map Substitution.flow)),
    (regexpsKey, .sequence (entry.patterns.map Substitution.flow))]

/-- A package as it is written. -/
def Package.flow (package : Package) : Flow :=
  .mapping [(regeneratesKey, .sequence (package.entries.map Entry.flow))]

namespace Configuration

/-- Packages as they are written. -/
def flow (packages : List Package) : Flow :=
  .mapping [(packagesKey, .sequence (packages.map Package.flow))]

/-- The document that packages are written as.  The letters among the digits of escapes may be
capital or small. -/
def written (capital : Bool) (packages : List Package) : Bytes :=
  Bytes.ofChars ((flow packages).chars capital)

end Configuration

/-! ## Reading -/

namespace Reading

variable {α β Parts : Type}

/-- A way of reading takes back a way of writing. -/
def Undoes (readNode : Location → Node → Reading α) (write : α → Flow) : Prop :=
  ∀ (value : α) (location : Location) (node : Node), (write value).Denotes node →
    readNode location node = pure value

theorem text_undoes (expected : Expected) :
    Undoes (text expected) fun said : String => .text said.toList := by
  intro said location node denotes
  cases denotes with
  | text _ mark =>
    change (pure (String.ofList said.toList) : Reading String) = pure said
    rw [String.ofList_toList]

/-! ### Lists -/

section

variable {readItem : Location → Node → Reading α} {write : α → Flow}

theorem items_eq_pure (undoes : Undoes readItem write) (location : Location) (values : List α)
    (index : Nat) (nodes : List Node) (denote : Flow.ItemsDenote (values.map write) nodes) :
    items readItem location index nodes = pure values := by
  induction values generalizing index nodes with
  | nil =>
    cases denote
    rfl
  | cons value values ih =>
    cases denote with
    | cons first others =>
      rw [items, undoes value _ _ first, pure_bind, ih _ _ others, pure_bind]

theorem list_undoes (undoes : Undoes readItem write) (outer : Location × Mark) :
    Undoes (list readItem outer) fun values => .sequence (values.map write) := by
  intro values location node denotes
  cases denotes with
  | sequence mark denote => exact items_eq_pure undoes location values 0 _ denote

end

/-! ### Records -/

theorem once_eq_pure {reading : Reading β} {value : β} (reads : reading = pure value)
    (name : String) (outer : Location × Mark) :
    once name none outer reading = pure (some value) := by
  rw [once, reads]
  rfl

theorem once_bind {reading : Reading β} {value : β} (reads : reading = pure value) (name : String)
    (outer : Location × Mark) (next : Option β → Reading α) :
    (once name none outer reading >>= next) = next (some value) := by
  rw [once_eq_pure reads, pure_bind]

section

variable {shape : RecordShape Parts α} {parts parts' last : Parts}

/-- Reading the keys and values of what entries hold turns some parts of a record into others. -/
def FieldsUndo (shape : RecordShape Parts α) (parts : Parts) (entries : List (Flow.Key × Flow))
    (last : Parts) : Prop :=
  ∀ (outer : Location × Mark) (pairs : List (Node × Node)), Flow.EntriesDenote entries pairs →
    fields shape outer parts pairs = pure last

theorem FieldsUndo.nil : FieldsUndo shape parts [] parts := by
  intro outer pairs denote
  cases denote
  rfl

theorem FieldsUndo.cons {key : Flow.Key} {value : Flow} {entries : List (Flow.Key × Flow)}
    {readField : Location × Mark → Location → Node → Parts → Reading Parts}
    (known : shape.field? (String.ofList key.word) = some readField)
    (reads : ∀ (outer : Location × Mark) (location : Location) (node : Node), value.Denotes node →
      readField outer location node parts = pure parts')
    (others : FieldsUndo shape parts' entries last) :
    FieldsUndo shape parts ((key, value) :: entries) last := by
  intro outer pairs denote
  cases denote with
  | @cons _ node _ pairs _ mark denotes denote =>
    have name_eq : text .key outer.1 (.scalar mark none key.word false) =
        pure (String.ofList key.word) := rfl
    rw [fields, name_eq, pure_bind]
    simp only [known]
    rw [reads _ _ node denotes, pure_bind, others outer pairs denote]

theorem record_eq_pure {entries : List (Flow.Key × Flow)} {value : α} {node : Node}
    (reads : FieldsUndo shape shape.start entries parts) (finishes : shape.finish parts = .ok value)
    (denotes : (Flow.mapping entries).Denotes node) (location : Location) :
    record shape location node = pure value := by
  cases denotes with
  | @mapping _ pairs mark denote =>
    change (fields shape (location, mark) shape.start pairs >>= complete shape (location, mark)) = _
    rw [reads _ pairs denote, pure_bind, complete, finishes]

end

/-! ### Configurations -/

theorem substitution_undoes (expected : Expected) :
    Undoes (record (substitutionShape expected)) Substitution.flow := by
  intro substitution location node denotes
  have reads : FieldsUndo (substitutionShape expected) {}
      [(Substitution.matchKey, .text substitution.find.toList),
        (Substitution.replacementKey, .text substitution.replacement.toList)]
      { find := some substitution.find, replacement := some substitution.replacement } := by
    refine .cons rfl (fun outer location node denotes => once_bind
      (text_undoes .text substitution.find location node denotes) "match" outer _) ?_
    refine .cons rfl (fun outer location node denotes => once_bind
      (text_undoes .text substitution.replacement location node denotes) "replacement" outer _) ?_
    exact .nil
  exact record_eq_pure reads rfl denotes location

theorem entry_undoes : Undoes (record entryShape) Entry.flow := by
  intro entry location node denotes
  have reads : FieldsUndo entryShape {}
      [(Entry.fileKey, .text entry.file.toList),
        (Entry.stringsKey, .sequence (entry.literals.map Substitution.flow)),
        (Entry.regexpsKey, .sequence (entry.patterns.map Substitution.flow))]
      { file := some entry.file, literals := some entry.literals
        patterns := some entry.patterns } := by
    refine .cons rfl (fun outer location node denotes => once_bind
      (text_undoes .path entry.file location node denotes) "file" outer _) ?_
    refine .cons rfl (fun outer location node denotes => once_bind
      (list_undoes (substitution_undoes .literal) outer entry.literals location node denotes)
      "strings" outer _) ?_
    refine .cons rfl (fun outer location node denotes => once_bind
      (list_undoes (substitution_undoes .pattern) outer entry.patterns location node denotes)
      "regexps" outer _) ?_
    exact .nil
  exact record_eq_pure reads rfl denotes location

theorem package_undoes : Undoes (record packageShape) Package.flow := by
  intro package location node denotes
  have reads : FieldsUndo packageShape none
      [(Package.regeneratesKey, .sequence (package.entries.map Entry.flow))]
      (some package.entries) :=
    .cons rfl (fun outer location node denotes => once_eq_pure
      (list_undoes entry_undoes outer package.entries location node denotes) "regenerates" outer)
      .nil
  exact record_eq_pure reads rfl denotes location

theorem configuration_eq_pure (packages : List Package) {node : Node}
    (denotes : (Configuration.flow packages).Denotes node) :
    configuration node = pure { packages } := by
  have reads : FieldsUndo configurationShape none
      [(Configuration.packagesKey, .sequence (packages.map Package.flow))] (some packages) :=
    .cons rfl (fun outer location node denotes => once_eq_pure
      (list_undoes package_undoes outer packages location node denotes) "packages" outer) .nil
  exact record_eq_pure reads rfl denotes []

end Reading

namespace Configuration

theorem not_isBlank_written (capital : Bool) (packages : List Package) :
    isBlank (written capital packages) = false := by
  rw [written, flow, Flow.chars, Bytes.ofChars_cons]
  rfl

/-- Reading packages that are written in one line gives back the packages, and nothing else is
set. -/
theorem parse_written (capital : Bool) (packages : List Package) :
    parse (written capital packages) =
      .ok { packages, directory := none, formatter := none } := by
  obtain ⟨node, count, denotes, document_eq⟩ :=
    Document.exists_ofBytes_flow capital (flow packages)
  rw [parse, not_isBlank_written, written, document_eq]
  simp only [Bool.false_eq_true, ↓reduceIte, Document.configuration]
  rw [Reading.configuration_eq_pure packages denotes]
  rfl

example :
    let substitution : Substitution := { find := "\u00e9\n", replacement := "" }
    let entry : Entry := { file := "a", literals := [substitution] }
    String.ofList ((flow [{ entries := [entry] }]).chars true) =
      "\x7b\"packages\": [\x7b\"regenerates\": [\x7b\"file\": \"\\U00000061\", \"strings\": [" ++
      "\x7b\"match\": \"\\U000000E9\\U0000000A\", \"replacement\": \"\"\x7d" ++
      "], \"regexps\": []\x7d]\x7d]\x7d" := by
  decide +kernel

end Configuration

end Emend
