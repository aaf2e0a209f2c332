/-
# Documents that say the same configuration

Substitutions, entries, packages and configurations are records with a slot for each known key, so
each of them is read alike from mappings that say the same, the inner ones first.  A document
without references that is read at all is read without following any, and then everything comes down
to its outermost node.
-/

import Emend.Proofs.Config.Reworded
import Mathlib.Logic.Relation

namespace Emend

open Yaml

namespace Reading

variable {α β Parts : Type}

/-! ## Suitable slots -/

section

variable {name : String} {finish : Parts → Except String α}

theorem text_suits {expected : Expected} {get : Parts → Option String}
    {put : Parts → Option String → Parts} :
    Slot.Suits ⟨name, String, fun _ => text expected, get, put⟩ finish .text :=
  ⟨nofun, nofun⟩

theorem spareText_suits {expected : Expected} {get : Parts → Option String}
    {put : Parts → Option String → Parts}
    (unsaid : ∀ parts, get parts = none → finish (put parts (some "")) = finish parts) :
    Slot.Suits ⟨name, String, fun _ => text expected, get, put⟩ finish .spareText :=
  ⟨fun _ silent _ _ => ⟨"", text_eq_pure_iff.mpr silent, unsaid⟩, nofun⟩

theorem list_suits {readItem : Location → Node → Reading β} {item : Node → Node → Prop}
    {get : Parts → Option (List β)} {put : Parts → Option (List β) → Parts}
    (steady : ReadsSteadily readItem)
    (alike : ∀ node other, item node other → ReadsAlike readItem node other)
    (unsaid : ∀ parts, get parts = none → finish (put parts (some [])) = finish parts) :
    Slot.Suits ⟨name, List β, list readItem, get, put⟩ finish (.list item) where
  silent _ nothing outer location := ⟨[], list_of_isNothing outer location nothing, unsaid⟩
  reworded _ _ reworded outer := list_readsAlike steady alike outer reworded

end

/-! ## Substitutions -/

def findSlot : Slot SubstitutionParts :=
  ⟨"match", String, fun _ => text .text, SubstitutionParts.find,
    fun parts find => { parts with find }⟩

def replacementSlot : Slot SubstitutionParts :=
  ⟨"replacement", String, fun _ => text .text, SubstitutionParts.replacement,
    fun parts replacement => { parts with replacement }⟩

theorem substitution_hasSlots (expected : Expected) :
    (substitutionShape expected).HasSlots [findSlot, replacementSlot] where
  fits := List.forall_mem_cons.mpr
    ⟨⟨rfl, fun _ => text_readsSteadily .text, rfl, fun _ _ => rfl⟩, List.forall_mem_singleton.mpr
      ⟨rfl, fun _ => text_readsSteadily .text, rfl, fun _ _ => rfl⟩⟩
  exists_of_field? := by
    intro name readField known
    simp only [substitutionShape] at known
    split at known
    · cases known
      exact ⟨findSlot, .head _, rfl, rfl⟩
    · cases known
      exact ⟨replacementSlot, .tail _ (.head _), rfl, rfl⟩
    · cases known
  apart := List.pairwise_pair.mpr
    ⟨by decide, fun _ _ => rfl, fun _ _ => rfl, fun _ _ _ => rfl⟩

theorem substitution_serves (expected : Expected) :
    (substitutionShape expected).Serves [findSlot, replacementSlot] Substitution.keyUse where
  toHasSlots := substitution_hasSlots expected
  unplaced := List.forall_mem_cons.mpr
    ⟨text_isUnplaced .text, List.forall_mem_singleton.mpr (text_isUnplaced .text)⟩
  unknown := by
    intro name unknown
    simp only [Substitution.keyUse] at unknown
    split at unknown
    · cases unknown
    · cases unknown
    · simp only [substitutionShape]
  suits := by
    intro name known uses
    simp only [Substitution.keyUse] at uses
    split at uses
    · cases uses
      exact ⟨findSlot, .head _, rfl, text_suits⟩
    · cases uses
      refine ⟨replacementSlot, .tail _ (.head _), rfl, spareText_suits ?_⟩
      intro parts vacant
      simp [substitutionShape, vacant]
    · cases uses

theorem substitution_readsSteadily (expected : Expected) :
    ReadsSteadily (record (substitutionShape expected)) :=
  record_readsSteadily (substitution_hasSlots expected).isSteady

/-! ## Entries -/

def fileSlot : Slot EntryParts :=
  ⟨"file", String, fun _ => text .path, EntryParts.file, fun parts file => { parts with file }⟩

def literalsSlot : Slot EntryParts :=
  ⟨"strings", List Substitution, list (record (substitutionShape .literal)), EntryParts.literals,
    fun parts literals => { parts with literals }⟩

def patternsSlot : Slot EntryParts :=
  ⟨"regexps", List Substitution, list (record (substitutionShape .pattern)), EntryParts.patterns,
    fun parts patterns => { parts with patterns }⟩

theorem entry_hasSlots : entryShape.HasSlots [fileSlot, literalsSlot, patternsSlot] where
  fits := List.forall_mem_cons.mpr
    ⟨⟨rfl, fun _ => text_readsSteadily .path, rfl, fun _ _ => rfl⟩, List.forall_mem_cons.mpr
      ⟨⟨rfl, list_readsSteadily (substitution_readsSteadily .literal), rfl, fun _ _ => rfl⟩,
        List.forall_mem_singleton.mpr
          ⟨rfl, list_readsSteadily (substitution_readsSteadily .pattern), rfl, fun _ _ => rfl⟩⟩⟩
  exists_of_field? := by
    intro name readField known
    simp only [entryShape] at known
    split at known
    · cases known
      exact ⟨fileSlot, .head _, rfl, rfl⟩
    · cases known
      exact ⟨literalsSlot, .tail _ (.head _), rfl, rfl⟩
    · cases known
      exact ⟨patternsSlot, .tail _ (.tail _ (.head _)), rfl, rfl⟩
    · cases known
  apart := .cons (List.forall_mem_cons.mpr
      ⟨⟨by decide, fun _ _ => rfl, fun _ _ => rfl, fun _ _ _ => rfl⟩, List.forall_mem_singleton.mpr
        ⟨by decide, fun _ _ => rfl, fun _ _ => rfl, fun _ _ _ => rfl⟩⟩)
    (List.pairwise_pair.mpr ⟨by decide, fun _ _ => rfl, fun _ _ => rfl, fun _ _ _ => rfl⟩)

theorem entry_serves : entryShape.Serves [fileSlot, literalsSlot, patternsSlot] Entry.keyUse where
  toHasSlots := entry_hasSlots
  unplaced := List.forall_mem_cons.mpr
    ⟨text_isUnplaced .path, List.forall_mem_cons.mpr
      ⟨list_isUnplaced (substitution_readsSteadily .literal)
          (record_isUnplaced (substitution_serves .literal)),
        List.forall_mem_singleton.mpr (list_isUnplaced (substitution_readsSteadily .pattern)
          (record_isUnplaced (substitution_serves .pattern)))⟩⟩
  unknown := by
    intro name unknown
    simp only [Entry.keyUse] at unknown
    split at unknown
    · cases unknown
    · cases unknown
    · cases unknown
    · simp only [entryShape]
  suits := by
    intro name known uses
    simp only [Entry.keyUse] at uses
    split at uses
    · cases uses
      exact ⟨fileSlot, .head _, rfl, text_suits⟩
    · cases uses
      refine ⟨literalsSlot, .tail _ (.head _), rfl, list_suits (substitution_readsSteadily .literal)
        (fun _ _ => record_readsAlike (substitution_serves .literal)) ?_⟩
      intro parts vacant
      simp [entryShape, vacant]
    · cases uses
      refine ⟨patternsSlot, .tail _ (.tail _ (.head _)), rfl,
        list_suits (substitution_readsSteadily .pattern)
          (fun _ _ => record_readsAlike (substitution_serves .pattern)) ?_⟩
      intro parts vacant
      simp [entryShape, vacant]
    · cases uses

theorem entry_readsSteadily : ReadsSteadily (record entryShape) :=
  record_readsSteadily entry_hasSlots.isSteady

/-! ## Packages and configurations -/

/-- Where the list of a record with a single key is kept. -/
def listSlot (name : String) (readItem : Location → Node → Reading β) : Slot (Option (List β)) :=
  ⟨name, List β, list readItem, id, fun _ found => found⟩

section

variable {shape : RecordShape (Option (List β)) α} {name : String}
  {readItem : Location → Node → Reading β} {use : String → Option KeyUse}
  {item : Node → Node → Prop}

/-- A record has a single key, which holds a list. -/
structure RecordShape.IsList (shape : RecordShape (Option (List β)) α) (name : String)
    (readItem : Location → Node → Reading β) : Prop where
  field?_eq : ∀ key, shape.field? key = if key = name then some fun outer location node earlier =>
    once name earlier outer (list readItem outer location node) else none
  start_eq : shape.start = none
  finish_nil : shape.finish (some []) = shape.finish none

theorem listSlot_field (name : String) (readItem : Location → Node → Reading β) :
    (listSlot name readItem).field = fun outer location node earlier =>
      once name earlier outer (list readItem outer location node) := by
  funext outer location node earlier
  exact bind_pure _

theorem RecordShape.IsList.hasSlots (isList : shape.IsList name readItem)
    (steady : ReadsSteadily readItem) : shape.HasSlots [listSlot name readItem] where
  fits := by
    rw [List.forall_mem_singleton]
    constructor
    · rw [isList.field?_eq, listSlot_field]
      exact if_pos rfl
    · exact list_readsSteadily steady
    · exact isList.start_eq
    · exact fun _ _ => rfl
  exists_of_field? := by
    intro key readField known
    rw [isList.field?_eq] at known
    split at known
    · rename_i same
      cases known
      exact ⟨_, .head _, same.symm, (listSlot_field _ _).symm⟩
    · cases known
  apart := List.pairwise_singleton ..

theorem RecordShape.IsList.serves (isList : shape.IsList name readItem)
    (use_eq : ∀ key, use key = if key = name then some (.list item) else none)
    (steady : ReadsSteadily readItem) (unplaced : IsUnplaced fun _ => readItem)
    (alike : ∀ node other, item node other → ReadsAlike readItem node other) :
    shape.Serves [listSlot name readItem] use where
  toHasSlots := isList.hasSlots steady
  unplaced := List.forall_mem_singleton.mpr (list_isUnplaced steady unplaced)
  unknown := by
    intro key unknown
    rw [use_eq] at unknown
    rw [isList.field?_eq]
    split at unknown
    · cases unknown
    · rename_i different
      exact if_neg different
  suits := by
    intro key known uses
    rw [use_eq] at uses
    split at uses
    · rename_i same
      cases uses
      refine ⟨_, .head _, same.symm, list_suits steady alike ?_⟩
      rintro parts rfl
      exact isList.finish_nil
    · cases uses

end

theorem package_isList : packageShape.IsList "regenerates" (record entryShape) where
  field?_eq key := by
    simp only [packageShape]
    split
    · rfl
    · rename_i different
      exact (if_neg different).symm
  start_eq := rfl
  finish_nil := rfl

theorem package_readsSteadily : ReadsSteadily (record packageShape) :=
  record_readsSteadily (package_isList.hasSlots entry_readsSteadily).isSteady

theorem package_serves :
    packageShape.Serves [listSlot "regenerates" (record entryShape)] Package.keyUse := by
  refine package_isList.serves ?_ entry_readsSteadily (record_isUnplaced entry_serves)
    fun _ _ => record_readsAlike entry_serves
  intro key
  simp only [Package.keyUse]
  split
  · rfl
  · rename_i different
    exact (if_neg different).symm

theorem configuration_isList : configurationShape.IsList "packages" (record packageShape) where
  field?_eq key := by
    simp only [configurationShape]
    split
    · rfl
    · rename_i different
      exact (if_neg different).symm
  start_eq := rfl
  finish_nil := rfl

theorem configuration_readsSteadily : ReadsSteadily (record configurationShape) :=
  record_readsSteadily (configuration_isList.hasSlots package_readsSteadily).isSteady

theorem configuration_serves :
    configurationShape.Serves [listSlot "packages" (record packageShape)]
      Configuration.keyUse := by
  refine configuration_isList.serves ?_ package_readsSteadily (record_isUnplaced package_serves)
    fun _ _ => record_readsAlike package_serves
  intro key
  simp only [Configuration.keyUse]
  split
  · rfl
  · rename_i different
    exact (if_neg different).symm

/-- However often a configuration is reworded, it is read alike. -/
theorem configuration_readsAlike {node other : Node}
    (reworded : Relation.EqvGen (Reworded Configuration.keyUse) node other) :
    ReadsAlike (record configurationShape) node other := by
  induction reworded with
  | rel node other reworded => exact record_readsAlike configuration_serves reworded
  | refl node => exact fun _ _ => Iff.rfl
  | symm node other _ ih => exact fun location config => (ih location config).symm
  | trans node other last _ _ ih ih' =>
    exact fun location config => (ih location config).trans (ih' location config)

end Reading

/-! ## Documents -/

namespace Yaml.Document

open Reading

/-- A configuration that a document holds is read from its outermost node, if there is one, and
nothing follows the document. -/
theorem exists_run_of_configuration {document : Document} {config : Configuration}
    (found : document.configuration = .ok config) :
    document.ending = .only ∧ (document.root = none ∧ config = {} ∨
      ∃ node count, document.root = some node ∧
        (Reading.configuration node document).run 0 = .ok (config, count)) := by
  rw [Document.configuration] at found
  cases root_eq : document.root with
  | none =>
    rw [root_eq] at found
    cases only : document.ending <;> rw [only] at found <;> cases found
    exact ⟨rfl, .inl ⟨rfl, rfl⟩⟩
  | some node =>
    simp only [root_eq] at found
    cases ends : (Reading.configuration node document).run 0 with
    | error fault =>
      rw [ends] at found
      cases found
    | ok result =>
      rw [ends] at found
      cases only : document.ending <;> rw [only] at found <;> cases found
      exact ⟨rfl, .inr ⟨node, result.2, rfl, ends⟩⟩

theorem configuration_of_eq_pure {document : Document} {node : Node} {config : Configuration}
    (root_eq : document.root = some node) (only : document.ending = .only)
    (reads : Reading.configuration node = pure config) : document.configuration = .ok config := by
  rw [Document.configuration, root_eq, only]
  simp only [reads]
  rfl

/-- No document sets a directory or a formatter. -/
theorem unset_of_configuration {document : Document} {config : Configuration}
    (found : document.configuration = .ok config) :
    config.directory = none ∧ config.formatter = none := by
  obtain ⟨-, ⟨-, rfl⟩ | ⟨node, count, -, ends⟩⟩ := exists_run_of_configuration found
  · exact ⟨rfl, rfl⟩
  · obtain ⟨packages, finishes⟩ := exists_finish_of_record ends
    cases finishes
    exact ⟨rfl, rfl⟩

/-- What a document without references holds, every document with a reworded node holds as well, and
neither a directory nor a formatter is set by it.  A rewording may be made of any number of changes,
each of which may also be taken back, in any mapping with known keys. -/
theorem configuration_of_reworded {document other : Document} {node node' : Node}
    {config : Configuration} (root_eq : document.root = some node)
    (free : node.isReferenceFree = true) (found : document.configuration = .ok config)
    (other_root : other.root = some node') (only : other.ending = .only)
    (reworded : Relation.EqvGen (Reworded Configuration.keyUse) node node') :
    other.configuration = .ok config ∧ config.directory = none ∧ config.formatter = none := by
  obtain ⟨-, ⟨noRoot, -⟩ | ⟨_, count, same, ends⟩⟩ := exists_run_of_configuration found
  · rw [root_eq] at noRoot
    cases noRoot
  · rw [root_eq, Option.some.injEq] at same
    subst same
    obtain ⟨-, still⟩ := configuration_readsSteadily [] node document 0 config count ends
    have reads : Reading.configuration node = pure config := still (.inl free)
    refine ⟨configuration_of_eq_pure other_root only ?_, unset_of_configuration found⟩
    exact (configuration_readsAlike reworded [] config).mp reads

/-- An empty replacement can be left out of a substitution inside an entry, a list of patterns
without items added to the entry, and a directory named beside the packages. -/
theorem configuration_of_reworded_inside :
    let word (text : String) : Node := .scalar {} none text.toList true
    let around (others : List (Node × Node)) (entry : Node) : Node :=
      .mapping {} (others ++ [(word "packages",
        .sequence {} [.mapping {} [(word "regenerates", .sequence {} [entry])]])])
    let entry (others : List (Node × Node)) (substitution : Node) : Node :=
      .mapping {} (others ++
        [(word "strings", .sequence {} [substitution]), (word "file", word "a")])
    let substitution (others : List (Node × Node)) : Node :=
      .mapping {} (others ++ [(word "match", word "x")])
    let node := around [] (entry [] (substitution [(word "replacement", word "")]))
    let node' := around [(word "directory", word "d")]
      (entry [(word "regexps", word "null")] (substitution []))
    let config : Configuration :=
      { packages := [⟨[{ file := "a", literals := [{ find := "x", replacement := "" }] }]⟩] }
    (⟨some node, [], 0, .only⟩ : Document).configuration = .ok config ∧
      (⟨some node', [], 0, .only⟩ : Document).configuration = .ok config := by
  intro word around entry substitution node node' config
  have inAround {first second : Node} (reworded : Reworded Entry.keyUse first second) :
      Reworded Configuration.keyUse (around [] first) (around [] second) := by
    apply Reworded.reword _ _ rfl rfl
    apply ItemReworded.intro {} [] []
    apply Reworded.reword _ _ rfl rfl
    exact ItemReworded.intro {} [] [] reworded
  have inEntry {first second : Node} (reworded : Reworded Substitution.keyUse first second) :
      Reworded Entry.keyUse (entry [] first) (entry [] second) := by
    apply Reworded.reword _ _ rfl rfl
    exact ItemReworded.intro {} [] [] reworded
  have withoutReplacement : Reworded Substitution.keyUse (substitution [])
      (substitution [(word "replacement", word "")]) :=
    .addSilent {} rfl rfl rfl (by decide)
  have withPatterns : Reworded Entry.keyUse (entry [] (substitution []))
      (entry [(word "regexps", word "null")] (substitution [])) :=
    .addSilent {} rfl rfl (.plain {} _ (by decide)) (by decide)
  have withDirectory (entry : Node) : Reworded Configuration.keyUse (around [] entry)
      (around [(word "directory", word "d")] entry) :=
    .addUnknown {} _ (word "d") rfl rfl rfl
  have reworded : Relation.EqvGen (Reworded Configuration.keyUse) node node' :=
    .trans _ _ _ (.symm _ _ (.rel _ _ (inAround (inEntry withoutReplacement))))
      (.trans _ _ _ (.rel _ _ (inAround withPatterns)) (.rel _ _ (withDirectory _)))
  have found : (⟨some node, [], 0, .only⟩ : Document).configuration = .ok config := rfl
  exact ⟨found, (configuration_of_reworded rfl rfl found rfl rfl reworded).1⟩

end Yaml.Document

end Emend
