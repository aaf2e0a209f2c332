/-
# Configurations in other words

A document says the same when the keys of its mappings come in another order, when keys that are not
known come in or go out with whatever they hold, and when what says nothing is written out or left
out: a list without items, or an empty replacement.  Such a change can be made anywhere a mapping
with known keys stands, so rewording is defined from the outside in, with the known keys of each
kind of mapping as a parameter; and that a record is read alike is shown once, for one change in any
mapping, given that the values of its keys are read alike.
-/

import Emend.Proofs.Config.Slot

namespace Emend

open Yaml

/-! ## Nodes without places -/

mutual

/-- A node without the places where its parts begin. -/
def Yaml.Node.unmarked : Node → Node
  | .scalar _ tag text isPlain => .scalar default tag text isPlain
  | .sequence _ items => .sequence default (unmarkedItems items)
  | .mapping _ pairs => .mapping default (unmarkedPairs pairs)
  | .alias anchor => .alias anchor
  | .hole => .hole

/-- Nodes without the places where their parts begin. -/
def Yaml.Node.unmarkedItems : List Node → List Node
  | [] => []
  | node :: nodes => unmarked node :: unmarkedItems nodes

/-- Pairs without the places where their parts begin. -/
def Yaml.Node.unmarkedPairs : List (Node × Node) → List (Node × Node)
  | [] => []
  | (key, value) :: pairs => (unmarked key, unmarked value) :: unmarkedPairs pairs

end

/-! ## Rewording -/

/-- A node says that there are no items: it is nothing, in one of its spellings, or a sequence of
none.  Only a plain scalar is nothing, and with the tag for nothing it must be spelled out. -/
inductive IsNothing : Node → Prop
  | plain (mark : Mark) (text : List Char)
      (spelled : String.ofList text ∈ ["", "~", "null", "Null", "NULL"]) :
      IsNothing (.scalar mark none text true)
  | tagged (mark : Mark) (text : List Char)
      (spelled : String.ofList text ∈ ["~", "null", "Null", "NULL"]) :
      IsNothing (.scalar mark (some (Bytes.ofText "tag:yaml.org,2002:null")) text true)
  | noItems (mark : Mark) : IsNothing (.sequence mark [])

/-- What a known key is for, as far as its values may be reworded. -/
structure KeyUse where
  /-- The value says no more than if the key were left out. -/
  IsSilent : Node → Prop
  /-- One value says the same as another. -/
  Reworded : Node → Node → Prop

/-- One mapping says the same as another, each key being for `use`.  By reordering, what is said of
the first pair holds of every other. -/
inductive Reworded (use : String → Option KeyUse) : Node → Node → Prop
  | moved {node other : Node} (same : node.unmarked = other.unmarked) : Reworded use node other
  | reorder (mark : Mark) {pairs others : List (Node × Node)} (reordered : pairs.Perm others) :
      Reworded use (.mapping mark pairs) (.mapping mark others)
  | addUnknown (mark : Mark) (pairs : List (Node × Node)) {key : Node} (value : Node)
      {name : String} (keyed : key.word? = some name) (unknown : use name = none)
      (complete : Reading.isComplete value = true) :
      Reworded use (.mapping mark pairs) (.mapping mark ((key, value) :: pairs))
  | addSilent (mark : Mark) {pairs : List (Node × Node)} {key value : Node} {name : String}
      {known : KeyUse} (keyed : key.word? = some name) (uses : use name = some known)
      (silent : known.IsSilent value) (absent : ∀ pair ∈ pairs, pair.1.word? ≠ some name) :
      Reworded use (.mapping mark pairs) (.mapping mark ((key, value) :: pairs))
  | reword (mark : Mark) (pairs : List (Node × Node)) {key value other : Node} {name : String}
      {known : KeyUse} (keyed : key.word? = some name) (uses : use name = some known)
      (reworded : known.Reworded value other) :
      Reworded use (.mapping mark ((key, value) :: pairs)) (.mapping mark ((key, other) :: pairs))

/-- One sequence says the same as another: so does one of its items. -/
inductive ItemReworded (item : Node → Node → Prop) : Node → Node → Prop
  | intro (mark : Mark) (before after : List Node) {node other : Node}
      (reworded : item node other) :
      ItemReworded item (.sequence mark (before ++ node :: after))
        (.sequence mark (before ++ other :: after))

/-- A text that must be there. -/
def KeyUse.text : KeyUse := ⟨fun _ => False, fun _ _ => False⟩

/-- A text that is empty if it is left out. -/
def KeyUse.spareText : KeyUse := ⟨fun node => node.word? = some "", fun _ _ => False⟩

/-- A list, which has no items if it is left out. -/
def KeyUse.list (item : Node → Node → Prop) : KeyUse := ⟨IsNothing, ItemReworded item⟩

/-- What the keys of a substitution are for. -/
def Substitution.keyUse : String → Option KeyUse
  | "match" => some .text
  | "replacement" => some .spareText
  | _ => none

/-- What the keys of an entry are for. -/
def Entry.keyUse : String → Option KeyUse
  | "file" => some .text
  | "strings" => some (.list (Reworded Substitution.keyUse))
  | "regexps" => some (.list (Reworded Substitution.keyUse))
  | _ => none

/-- What the keys of a package are for. -/
def Package.keyUse : String → Option KeyUse
  | "regenerates" => some (.list (Reworded Entry.keyUse))
  | _ => none

/-- What the keys of a configuration are for. -/
def Configuration.keyUse : String → Option KeyUse
  | "packages" => some (.list (Reworded Package.keyUse))
  | _ => none

namespace Reading

variable {α β Parts : Type}

/-- Two nodes are read alike wherever they stand. -/
def ReadsAlike (readNode : Location → Node → Reading α) (node other : Node) : Prop :=
  ∀ (location : Location) (value : α),
    readNode location node = pure value ↔ readNode location other = pure value

/-! ## Places do not matter -/

theorem word?_unmarked (node : Node) : node.unmarked.word? = node.word? := by
  cases node <;> rfl

mutual

theorem isComplete_unmarked : (node : Node) → isComplete node.unmarked = isComplete node
  | .scalar .. => rfl
  | .sequence _ items => areComplete_unmarkedItems items
  | .mapping _ pairs => pairsAreComplete_unmarkedPairs pairs
  | .alias _ => rfl
  | .hole => rfl

theorem areComplete_unmarkedItems :
    (nodes : List Node) → areComplete (Node.unmarkedItems nodes) = areComplete nodes
  | [] => rfl
  | node :: nodes => by
    rw [Node.unmarkedItems, areComplete, areComplete, isComplete_unmarked node,
      areComplete_unmarkedItems nodes]

theorem pairsAreComplete_unmarkedPairs : (pairs : List (Node × Node)) →
    pairsAreComplete (Node.unmarkedPairs pairs) = pairsAreComplete pairs
  | [] => rfl
  | (key, value) :: pairs => by
    rw [Node.unmarkedPairs, pairsAreComplete, pairsAreComplete, isComplete_unmarked key,
      isComplete_unmarked value, pairsAreComplete_unmarkedPairs pairs]

end

/-- What is read does not depend on the places in a node, nor on the place of the mapping around. -/
def IsUnplaced (read : Location × Mark → Location → Node → Reading α) : Prop :=
  ∀ (outer other : Location × Mark) (location : Location) (node : Node) (value : α),
    read outer location node = pure value ↔ read other location node.unmarked = pure value

theorem text_isUnplaced (expected : Expected) : IsUnplaced fun _ => text expected := by
  intro outer other location node value
  rw [text_eq_pure_iff, text_eq_pure_iff, word?_unmarked]

section

variable {readItem : Location → Node → Reading α}

theorem items_cons_eq_pure_iff (steady : ReadsSteadily readItem) {location : Location}
    {index : Nat} {node : Node} {nodes : List Node} {values : List α} :
    items readItem location index (node :: nodes) = pure values ↔
      ∃ first rest, readItem (.item index :: location) node = pure first ∧
        items readItem location (index + 1) nodes = pure rest ∧ values = first :: rest := by
  have others (first : α) := (steady_items steady location (index + 1) nodes).bind
    fun rest => steady_pure (p := True) (first :: rest)
  rw [items]
  constructor
  · intro reads
    obtain ⟨first, readsFirst, reads⟩ := (steady _ node).exists_of_bind_eq_pure others reads
    obtain ⟨rest, readsRest, same⟩ := (steady_items steady location (index + 1) nodes
      ).exists_of_bind_eq_pure (fun rest => steady_pure (p := True) (first :: rest)) reads
    exact ⟨first, rest, readsFirst, readsRest, (pure_inj same).symm⟩
  · rintro ⟨first, rest, readsFirst, readsRest, rfl⟩
    rw [readsFirst, pure_bind, readsRest, pure_bind]

theorem items_unmarked (steady : ReadsSteadily readItem) (unplaced : IsUnplaced fun _ => readItem)
    {location : Location} {index : Nat} {nodes : List Node} {values : List α} :
    items readItem location index nodes = pure values ↔
      items readItem location index (Node.unmarkedItems nodes) = pure values := by
  induction nodes generalizing index values with
  | nil => rfl
  | cons node nodes ih =>
    rw [Node.unmarkedItems, items_cons_eq_pure_iff steady, items_cons_eq_pure_iff steady]
    have first (value : α) := unplaced ([], default) ([], default) (.item index :: location) node
      value
    simp only [first, ih]

/-- Whether a scalar is taken for a list without items. -/
def isVoid (tag : Option Bytes) (text : List Char) (isPlain : Bool) : Bool :=
  isPlain && match tag with
    | none => text.isEmpty || Untyped.isNull (String.ofList text)
    | some name =>
      if CoreTag.ofName? name = some .null then Untyped.isNull (String.ofList text)
      else text.isEmpty

theorem isEmptyList_cases (outer : Location × Mark) (tag : Option Bytes) (text : List Char)
    (isPlain : Bool) :
    isEmptyList outer tag text isPlain = pure (isVoid tag text isPlain) ∨
      Fails (isEmptyList outer tag text isPlain) ∧ isVoid tag text isPlain = false := by
  cases tag with
  | none => exact .inl rfl
  | some name =>
    simp only [isEmptyList, isVoid]
    by_cases isTag : CoreTag.ofName? name = some .null
    · cases isPlain with
      | false => exact .inl (by simp)
      | true =>
        cases isNull : Untyped.isNull (String.ofList text) with
        | true => exact .inl (by simp [isTag])
        | false =>
          apply Or.inr
          simp only [isTag, decide_true, Bool.and_self, ↓reduceIte, Bool.false_eq_true]
          exact ⟨fails_refuse _ _ _, rfl⟩
    · exact .inl (by simp [isTag])

theorem list_scalar_eq_pure_iff {outer : Location × Mark} {location : Location} {mark : Mark}
    {tag : Option Bytes} {text : List Char} {isPlain : Bool} {values : List α} :
    list readItem outer location (.scalar mark tag text isPlain) = pure values ↔
      isVoid tag text isPlain = true ∧ values = [] := by
  change (isEmptyList outer tag text isPlain >>= fun isEmpty => if isEmpty then pure []
    else refuseScalar location mark tag text isPlain .list) = pure values ↔ _
  rcases isEmptyList_cases outer tag text isPlain with decided | ⟨fails, notVoid⟩
  · rw [decided, pure_bind]
    cases isVoid tag text isPlain with
    | true =>
      constructor
      · exact fun same => ⟨rfl, (pure_inj same).symm⟩
      · rintro ⟨-, rfl⟩
        rfl
    | false =>
      exact iff_of_false ((fails_refuseScalar location mark tag text isPlain _).ne_pure values)
        fun void => nomatch void.1
  · rw [notVoid]
    apply iff_of_false _ fun void => nomatch void.1
    intro reads
    obtain ⟨isEmpty, decided, -⟩ := (fails.steady (p := True)).exists_of_bind_eq_pure
      (q := True) (fun isEmpty => by
        cases isEmpty with
        | true => exact steady_pure _
        | false => exact (fails_refuseScalar location mark tag text isPlain _).steady) reads
    exact fails.ne_pure isEmpty decided

theorem list_isUnplaced (steady : ReadsSteadily readItem)
    (unplaced : IsUnplaced fun _ => readItem) : IsUnplaced (list readItem) := by
  intro outer other location node values
  cases node with
  | scalar mark tag text isPlain =>
    rw [Node.unmarked, list_scalar_eq_pure_iff, list_scalar_eq_pure_iff]
  | sequence mark nodes => exact items_unmarked steady unplaced
  | mapping mark pairs =>
    exact iff_of_false ((fails_refuse location _ _).ne_pure _)
      ((fails_refuse location _ _).ne_pure _)
  | «alias» anchor =>
    exact iff_of_false (resolve_alias_bind_ne_pure anchor _ _)
      (resolve_alias_bind_ne_pure anchor _ _)
  | hole => exact iff_of_false (fails_breakOff.ne_pure _) (fails_breakOff.ne_pure _)

/-! ## Lists in other words -/

theorem list_of_isNothing (outer : Location × Mark) (location : Location) {node : Node}
    (nothing : IsNothing node) : list readItem outer location node = pure [] := by
  cases nothing with
  | plain mark text spelled =>
    apply list_scalar_eq_pure_iff.mpr
    constructor
    · simpa [isVoid, Untyped.isNull, or_comm, or_assoc, or_left_comm] using spelled
    · rfl
  | tagged mark text spelled =>
    apply list_scalar_eq_pure_iff.mpr
    have isTag : CoreTag.ofName? (Bytes.ofText "tag:yaml.org,2002:null") = some .null := by
      decide +kernel
    constructor
    · simpa [isVoid, isTag, Untyped.isNull, or_comm, or_assoc, or_left_comm] using spelled
    · rfl
  | noItems mark => rfl

theorem items_readAlike (steady : ReadsSteadily readItem) {node other : Node}
    (alike : ReadsAlike readItem node other) (location : Location) (index : Nat)
    (before after : List Node) (values : List α) :
    items readItem location index (before ++ node :: after) = pure values ↔
      items readItem location index (before ++ other :: after) = pure values := by
  induction before generalizing index values with
  | nil =>
    simp only [List.nil_append, items_cons_eq_pure_iff steady, alike (.item index :: location) _]
  | cons first before ih =>
    simp only [List.cons_append, items_cons_eq_pure_iff steady, ih]

theorem list_readsAlike (steady : ReadsSteadily readItem) {item : Node → Node → Prop}
    (alike : ∀ node other, item node other → ReadsAlike readItem node other)
    (outer : Location × Mark) {node other : Node} (reworded : ItemReworded item node other) :
    ReadsAlike (list readItem outer) node other := by
  intro location values
  cases reworded with
  | intro mark before after reworded =>
    exact items_readAlike steady (alike _ _ reworded) location 0 before after values

end

/-! ## Records in other words -/

/-- A slot holds what a key is for. -/
structure Slot.Suits (slot : Slot Parts) (finish : Parts → Except String α) (use : KeyUse) :
    Prop where
  /-- What is read of a silent value makes the same record as nothing. -/
  silent : ∀ node, use.IsSilent node → ∀ outer location, ∃ found,
    slot.read outer location node = pure found ∧
      ∀ parts, slot.get parts = none → finish (slot.put parts (some found)) = finish parts
  reworded : ∀ node other, use.Reworded node other → ∀ outer,
    ReadsAlike (slot.read outer) node other

/-- A record has a suitable slot for each key that is for something, and for no other. -/
structure RecordShape.Serves (shape : RecordShape Parts α) (slots : List (Slot Parts))
    (use : String → Option KeyUse) : Prop extends shape.HasSlots slots where
  unplaced : ∀ slot ∈ slots, IsUnplaced slot.read
  unknown : ∀ name, use name = none → shape.field? name = none
  suits : ∀ name known, use name = some known →
    ∃ slot ∈ slots, slot.name = name ∧ slot.Suits shape.finish known

section

variable {shape : RecordShape Parts α} {slots : List (Slot Parts)}
  {use : String → Option KeyUse}

theorem record_mapping_eq_pure_iff (kept : shape.HasSlots slots) {location : Location} {mark : Mark}
    {pairs : List (Node × Node)} {value : α} :
    record shape location (.mapping mark pairs) = pure value ↔
      ∃ last, fields shape (location, mark) shape.start pairs = pure last ∧
        shape.finish last = .ok value := by
  change (fields shape (location, mark) shape.start pairs >>= complete shape (location, mark)) =
    pure value ↔ _
  constructor
  · intro reads
    have steadily := steady_fields kept.isSteady (location, mark) shape.start pairs
    obtain ⟨last, reads, completes⟩ := steadily.exists_of_bind_eq_pure
      (fun parts => steady_complete (p := True) (location, mark) parts) reads
    exact ⟨last, reads, complete_eq_pure_iff.mp completes⟩
  · rintro ⟨last, reads, finishes⟩
    rw [reads, pure_bind, complete_eq_pure_iff.mpr finishes]

/-- How a pair changes the parts of a record does not depend on places. -/
theorem pairReads_unmarked_iff (serves : shape.Serves slots use) {location : Location} {mark : Mark}
    {key value : Node} {parts last : Parts} :
    PairReads shape slots (location, mark) parts (key, value) last ↔
      PairReads shape slots (location, default) parts (key.unmarked, value.unmarked) last := by
  have step (name : String) : stepTo key.unmarked name = stepTo key name := by cases key <;> rfl
  constructor
  · intro pairReads
    cases pairReads with
    | unknown keyed unknown complete =>
      apply PairReads.unknown _ unknown
      · rw [isComplete_unmarked, complete]
      · rw [word?_unmarked, keyed]
    | known member keyed vacant reads =>
      apply PairReads.known member _ vacant
      · rw [step]
        exact (serves.unplaced _ member _ _ _ _ _).mp reads
      · rw [word?_unmarked, keyed]
  · intro pairReads
    cases pairReads with
    | unknown keyed unknown complete =>
      rw [word?_unmarked] at keyed
      rw [isComplete_unmarked] at complete
      exact .unknown keyed unknown complete
    | known member keyed vacant reads =>
      rw [word?_unmarked] at keyed
      rw [step] at reads
      exact .known member keyed vacant ((serves.unplaced _ member _ _ _ _ _).mpr reads)

theorem fields_unmarked (serves : shape.Serves slots use) {location : Location} {mark : Mark}
    {pairs : List (Node × Node)} {parts last : Parts} :
    fields shape (location, mark) parts pairs = pure last ↔
      fields shape (location, default) parts (Node.unmarkedPairs pairs) = pure last := by
  induction pairs generalizing parts with
  | nil => rfl
  | cons pair pairs ih =>
    obtain ⟨key, value⟩ := pair
    rw [Node.unmarkedPairs, fields_cons_eq_pure_iff serves.toHasSlots,
      fields_cons_eq_pure_iff serves.toHasSlots]
    exact exists_congr fun middle => and_congr (pairReads_unmarked_iff serves) ih

theorem record_isUnplaced (serves : shape.Serves slots use) :
    IsUnplaced fun _ => record shape := by
  intro _ _ location node value
  cases node with
  | mapping mark pairs =>
    rw [Node.unmarked, record_mapping_eq_pure_iff serves.toHasSlots,
      record_mapping_eq_pure_iff serves.toHasSlots]
    exact exists_congr fun last => and_congr (fields_unmarked serves) Iff.rfl
  | scalar mark tag text isPlain =>
    change (if (text.isEmpty && isPlain) = true then complete shape (location, mark) shape.start
        else refuseScalar location mark tag text isPlain shape.expected) = pure value ↔
      (if (text.isEmpty && isPlain) = true then complete shape (location, default) shape.start
        else refuseScalar location default tag text isPlain shape.expected) = pure value
    split
    · rw [complete_eq_pure_iff, complete_eq_pure_iff]
    · exact iff_of_false ((fails_refuseScalar _ _ _ _ _ _).ne_pure _)
        ((fails_refuseScalar _ _ _ _ _ _).ne_pure _)
  | sequence mark items =>
    exact iff_of_false ((fails_refuse location _ _).ne_pure _)
      ((fails_refuse location _ _).ne_pure _)
  | «alias» anchor =>
    exact iff_of_false (resolve_alias_bind_ne_pure anchor _ _)
      (resolve_alias_bind_ne_pure anchor _ _)
  | hole => exact iff_of_false (fails_breakOff.ne_pure _) (fails_breakOff.ne_pure _)

theorem record_reorder (kept : shape.HasSlots slots) (mark : Mark)
    {pairs others : List (Node × Node)} (reordered : pairs.Perm others) :
    ReadsAlike (record shape) (.mapping mark pairs) (.mapping mark others) := by
  intro location value
  rw [record_mapping_eq_pure_iff kept, record_mapping_eq_pure_iff kept]
  apply exists_congr
  intro last
  apply and_congr_left'
  exact ⟨fields_of_perm kept reordered, fields_of_perm kept reordered.symm⟩

theorem record_addUnknown (kept : shape.HasSlots slots) (mark : Mark) (pairs : List (Node × Node))
    {key value : Node} {name : String} (keyed : key.word? = some name)
    (unknown : shape.field? name = none) (complete : isComplete value = true) :
    ReadsAlike (record shape) (.mapping mark pairs) (.mapping mark ((key, value) :: pairs)) := by
  intro location record
  rw [record_mapping_eq_pure_iff kept, record_mapping_eq_pure_iff kept]
  apply exists_congr
  intro last
  apply and_congr_left'
  rw [fields_cons_eq_pure_iff kept]
  simp [pairReads_unknown_iff kept keyed unknown, complete]

/-- A pair with a silent value, added where its key is absent, leaves the record as it is. -/
theorem record_addSilent (kept : shape.HasSlots slots) (mark : Mark) {pairs : List (Node × Node)}
    {key value : Node} {slot : Slot Parts} {use : KeyUse} (member : slot ∈ slots)
    (keyed : key.word? = some slot.name) (suits : slot.Suits shape.finish use)
    (silent : use.IsSilent value) (absent : ∀ pair ∈ pairs, pair.1.word? ≠ some slot.name) :
    ReadsAlike (record shape) (.mapping mark pairs) (.mapping mark ((key, value) :: pairs)) := by
  intro location record
  obtain ⟨found, reads, same⟩ := suits.silent value silent (location, mark)
    (stepTo key slot.name :: location)
  -- The pair may as well be read last, when the slot of its key is still vacant.
  have toEnd : (pairs ++ [(key, value)]).Perm ((key, value) :: pairs) :=
    List.perm_append_singleton _ _
  rw [record_mapping_eq_pure_iff kept, record_mapping_eq_pure_iff kept]
  constructor
  · rintro ⟨last, readsAll, finishes⟩
    have vacant : slot.get last = none := by
      rw [get_of_absent kept member absent readsAll, (kept.fits slot member).vacant]
    have readsLast : fields shape (location, mark) last [(key, value)] =
        pure (slot.put last (some found)) :=
      (fields_cons_eq_pure_iff kept).mpr ⟨_, .known member keyed vacant reads, rfl⟩
    refine ⟨slot.put last (some found), fields_of_perm kept toEnd ?_, ?_⟩
    · exact (fields_append_eq_pure_iff kept).mpr ⟨last, readsAll, readsLast⟩
    · rw [same last vacant, finishes]
  · rintro ⟨last, readsAll, finishes⟩
    obtain ⟨middle, readsOthers, readsLast⟩ :=
      (fields_append_eq_pure_iff kept).mp (fields_of_perm kept toEnd.symm readsAll)
    obtain ⟨after, pairReads, done⟩ := (fields_cons_eq_pure_iff kept).mp readsLast
    obtain ⟨vacant, found', readsAgain, rfl⟩ := (pairReads_known_iff kept member keyed).mp pairReads
    rw [reads] at readsAgain
    rw [← pure_inj done, ← pure_inj readsAgain, same middle vacant] at finishes
    exact ⟨middle, readsOthers, finishes⟩

theorem record_reword (kept : shape.HasSlots slots) (mark : Mark) (pairs : List (Node × Node))
    {key value other : Node} {slot : Slot Parts} (member : slot ∈ slots)
    (keyed : key.word? = some slot.name)
    (alike : ∀ outer, ReadsAlike (slot.read outer) value other) :
    ReadsAlike (record shape) (.mapping mark ((key, value) :: pairs))
      (.mapping mark ((key, other) :: pairs)) := by
  intro location record
  simp only [record_mapping_eq_pure_iff kept, fields_cons_eq_pure_iff kept,
    pairReads_known_iff kept member keyed, alike _ _ _]

/-- A record is read alike from mappings that say the same. -/
theorem record_readsAlike (serves : shape.Serves slots use) {node other : Node}
    (reworded : Reworded use node other) : ReadsAlike (record shape) node other := by
  have kept := serves.toHasSlots
  cases reworded with
  | moved same =>
    intro location value
    have unplaced (node : Node) :=
      record_isUnplaced serves ([], default) ([], default) location node value
    rw [unplaced node, unplaced other, same]
  | reorder mark reordered => exact record_reorder kept mark reordered
  | addUnknown mark pairs value keyed unknown complete =>
    exact record_addUnknown kept mark pairs keyed (serves.unknown _ unknown) complete
  | addSilent mark keyed uses silent absent =>
    obtain ⟨slot, member, rfl, suits⟩ := serves.suits _ _ uses
    exact record_addSilent kept mark member keyed suits silent absent
  | reword mark pairs keyed uses reworded =>
    obtain ⟨slot, member, rfl, suits⟩ := serves.suits _ _ uses
    exact record_reword kept mark pairs member keyed (suits.reworded _ _ reworded)

end

end Reading

end Emend
