/-
# Records kept in slots

The value of each known key of a record is read into a place of its own, which must be vacant: a
slot.  Different slots do not touch each other.  So the keys of a mapping may come in any order, a
key that does not occur leaves its slot vacant, and the record is read exactly if each of its keys
can be.
-/

import Emend.Proofs.Config.Steady
import Mathlib.Data.List.Pairwise

namespace Emend

open Yaml

/-- The text of a scalar. -/
def Yaml.Node.word? : Node → Option String
  | .scalar _ _ text _ => some (String.ofList text)
  | _ => none

namespace Reading

variable {α β Parts : Type}

/-! ## What can be read -/

theorem pure_inj {first second : α} (same : (pure first : Reading α) = pure second) :
    first = second := by
  have ends := congrFun (congrFun same ⟨none, [], 0, .only⟩) 0
  cases ends
  rfl

theorem Fails.ne_pure {reading : Reading α} (fails : Fails reading) (value : α) :
    reading ≠ pure value := by
  rintro rfl
  let document : Document := ⟨none, [], 0, .only⟩
  have ends : ((pure value : Reading α) document).run 0 = .ok (value, 0) := rfl
  exact fails.ne_ok _ ends

/-- What a reference stands for depends on the document. -/
theorem resolve_alias_bind_ne_pure (anchor : Nat) (next : Node → Reading α) (value : α) :
    (resolve (.alias anchor) >>= next) ≠ pure value := by
  intro same
  -- In a document without events no reference may be followed.
  have ends := congrFun (congrFun same ⟨none, [], 0, .only⟩) 0
  cases ends

theorem text_eq_pure_iff {expected : Expected} {location : Location} {node : Node}
    {said : String} : text expected location node = pure said ↔ node.word? = some said := by
  cases node with
  | scalar mark tag word isPlain =>
    change (pure (String.ofList word) : Reading String) = pure said ↔
      some (String.ofList word) = some said
    rw [Option.some.injEq]
    exact ⟨pure_inj, congrArg pure⟩
  | sequence mark items =>
    exact iff_of_false ((fails_refuse location mark _).ne_pure said) nofun
  | mapping mark pairs =>
    exact iff_of_false ((fails_refuse location mark _).ne_pure said) nofun
  | «alias» anchor => exact iff_of_false (resolve_alias_bind_ne_pure anchor _ said) nofun
  | hole => exact iff_of_false (fails_breakOff.ne_pure said) nofun

theorem ignore_eq_pure_iff {node : Node} : ignore node = pure () ↔ isComplete node = true := by
  rw [ignore]
  cases isComplete node with
  | true => exact iff_of_true rfl rfl
  | false => exact iff_of_false (fails_breakOff.ne_pure ()) Bool.false_ne_true

theorem complete_eq_pure_iff {shape : RecordShape Parts α} {outer : Location × Mark}
    {parts : Parts} {record : α} :
    complete shape outer parts = pure record ↔ shape.finish parts = .ok record := by
  rw [complete]
  cases shape.finish parts with
  | ok found =>
    rw [Except.ok.injEq]
    exact ⟨pure_inj, congrArg pure⟩
  | error name =>
    apply iff_of_false ((fails_refuse outer.1 outer.2 _).ne_pure record)
    intro same
    cases same

/-! ## Slots -/

/-- A known key of a record: how its value is read, and where what has been read is kept. -/
structure Slot (Parts : Type) where
  name : String
  Value : Type
  read : Location × Mark → Location → Node → Reading Value
  get : Parts → Option Value
  put : Parts → Option Value → Parts

namespace Slot

/-- Read the value of the key. -/
def field (slot : Slot Parts) (outer : Location × Mark) (location : Location) (node : Node)
    (parts : Parts) : Reading Parts := do
  let found ← once slot.name (slot.get parts) outer (slot.read outer location node)
  return slot.put parts found

/-- Two keys do not touch each other's places. -/
structure Apart (slot other : Slot Parts) : Prop where
  name_ne : slot.name ≠ other.name
  get_put : ∀ parts found, slot.get (other.put parts found) = slot.get parts
  other_get_put : ∀ parts found, other.get (slot.put parts found) = other.get parts
  put_comm : ∀ parts found other_found,
    slot.put (other.put parts other_found) found = other.put (slot.put parts found) other_found

theorem Apart.symm {slot other : Slot Parts} (apart : slot.Apart other) : other.Apart slot where
  name_ne := apart.name_ne.symm
  get_put := apart.other_get_put
  other_get_put := apart.get_put
  put_comm parts found otherFound := (apart.put_comm parts otherFound found).symm

instance : Std.Symm (@Apart Parts) := ⟨fun _ _ => Apart.symm⟩

variable {slot : Slot Parts}

theorem steady_field (steady : ∀ outer, ReadsSteadily (slot.read outer)) (outer : Location × Mark)
    (location : Location) (node : Node) (parts : Parts) :
    Steady (node.isReferenceFree = true) (slot.field outer location node parts) :=
  ((steady_once slot.name _ outer (steady outer location node)).bind
    fun found => steady_pure (p := True) (slot.put parts found)).mono fun free => ⟨free, trivial⟩

theorem field_eq_pure_iff (steady : ∀ outer, ReadsSteadily (slot.read outer))
    {outer : Location × Mark} {location : Location} {node : Node} {parts last : Parts} :
    slot.field outer location node parts = pure last ↔
      slot.get parts = none ∧ ∃ value, slot.read outer location node = pure value ∧
        last = slot.put parts (some value) := by
  rw [field, once]
  cases vacant : slot.get parts with
  | some value =>
    exact iff_of_false ((fails_refuse outer.1 outer.2 _).ne_pure last) fun found => nomatch found.1
  | none =>
    change ((slot.read outer location node >>= fun value => pure (some value)) >>=
      fun found => pure (slot.put parts found)) = pure last ↔ _
    rw [bind_assoc]
    constructor
    · intro reads
      obtain ⟨value, reads, same⟩ := (steady outer location node).exists_of_bind_eq_pure
        (fun value => steady_pure (p := True) (slot.put parts (some value))) reads
      exact ⟨rfl, value, reads, (pure_inj same).symm⟩
    · rintro ⟨-, value, reads, rfl⟩
      rw [reads, pure_bind, pure_bind]

end Slot

/-! ## Records with slots -/

/-- A slot is one of a record: its key is read into it, and it is vacant at first. -/
structure Slot.Fits (slot : Slot Parts) (shape : RecordShape Parts α) : Prop where
  field?_name : shape.field? slot.name = some slot.field
  steady : ∀ outer, ReadsSteadily (slot.read outer)
  vacant : slot.get shape.start = none
  get_put : ∀ parts found, slot.get (slot.put parts found) = found

/-- The known keys of a record are read into slots that do not touch each other. -/
structure RecordShape.HasSlots (shape : RecordShape Parts α) (slots : List (Slot Parts)) :
    Prop where
  fits : ∀ slot ∈ slots, slot.Fits shape
  exists_of_field? : ∀ name readField, shape.field? name = some readField →
    ∃ slot ∈ slots, slot.name = name ∧ readField = slot.field
  apart : slots.Pairwise Slot.Apart

section

variable {shape : RecordShape Parts α} {slots : List (Slot Parts)} {outer : Location × Mark}

namespace RecordShape.HasSlots

theorem isSteady (kept : shape.HasSlots slots) : shape.IsSteady := by
  intro name readField known outer location node parts
  obtain ⟨slot, member, -, rfl⟩ := kept.exists_of_field? name readField known
  exact slot.steady_field (kept.fits slot member).steady outer location node parts

theorem apart_of_ne (kept : shape.HasSlots slots) {slot other : Slot Parts} (member : slot ∈ slots)
    (otherMember : other ∈ slots) (different : slot.name ≠ other.name) : slot.Apart other := by
  apply kept.apart.forall member otherMember
  exact fun same => different (congrArg Slot.name same)

theorem eq_of_name_eq (kept : shape.HasSlots slots) {slot other : Slot Parts}
    (member : slot ∈ slots) (otherMember : other ∈ slots) (same : slot.name = other.name) :
    slot = other := by
  by_contra different
  exact (kept.apart.forall member otherMember different).name_ne same

end RecordShape.HasSlots

/-- How a pair changes the parts of a record: the value of an unknown key is passed over, that of a
known one fills the slot of the key. -/
inductive PairReads (shape : RecordShape Parts α) (slots : List (Slot Parts))
    (outer : Location × Mark) (parts : Parts) : Node × Node → Parts → Prop
  | unknown {key value : Node} {name : String} (keyed : key.word? = some name)
      (unknown : shape.field? name = none) (complete : isComplete value = true) :
      PairReads shape slots outer parts (key, value) parts
  | known {key value : Node} {slot : Slot Parts} {found : slot.Value} (member : slot ∈ slots)
      (keyed : key.word? = some slot.name) (vacant : slot.get parts = none)
      (reads : slot.read outer (stepTo key slot.name :: outer.1) value = pure found) :
      PairReads shape slots outer parts (key, value) (slot.put parts (some found))

theorem fields_cons_eq_pure_iff (kept : shape.HasSlots slots) {parts last : Parts}
    {pair : Node × Node} {pairs : List (Node × Node)} :
    fields shape outer parts (pair :: pairs) = pure last ↔
      ∃ middle, PairReads shape slots outer parts pair middle ∧
        fields shape outer middle pairs = pure last := by
  obtain ⟨key, value⟩ := pair
  have others (middle : Parts) := steady_fields kept.isSteady outer middle pairs
  rw [fields]
  constructor
  · intro reads
    obtain ⟨name, keyed, reads⟩ := (text_readsSteadily .key outer.1 key).exists_of_bind_eq_pure
      (q := False) (by
        intro name
        simp only
        split
        · rename_i readField known
          exact ((kept.isSteady name readField known outer _ value parts).bind others).mono False.elim
        · exact ((steady_ignore (p := True) value).bind fun _ => others parts).mono
            False.elim) reads
    rw [text_eq_pure_iff] at keyed
    simp only at reads
    cases known : shape.field? name with
    | some readField =>
      rw [known] at reads
      obtain ⟨slot, member, rfl, rfl⟩ := kept.exists_of_field? name readField known
      have steadily := slot.steady_field (kept.fits slot member).steady outer
        (stepTo key slot.name :: outer.1) value parts
      obtain ⟨middle, filled, reads⟩ := steadily.exists_of_bind_eq_pure others reads
      obtain ⟨vacant, found, found_eq, rfl⟩ :=
        (slot.field_eq_pure_iff (kept.fits slot member).steady).mp filled
      exact ⟨_, .known member keyed vacant found_eq, reads⟩
    | none =>
      rw [known] at reads
      obtain ⟨⟨⟩, passed, reads⟩ := (steady_ignore (p := True) value).exists_of_bind_eq_pure
        (fun _ => others parts) reads
      exact ⟨parts, .unknown keyed known (ignore_eq_pure_iff.mp passed), reads⟩
  · rintro ⟨middle, pairReads, reads⟩
    cases pairReads with
    | unknown keyed unknown complete =>
      rw [text_eq_pure_iff.mpr keyed, pure_bind]
      simp only [unknown]
      rw [ignore_eq_pure_iff.mpr complete, pure_bind, reads]
    | @known _ _ slot found member keyed vacant found_eq =>
      rw [text_eq_pure_iff.mpr keyed, pure_bind]
      simp only [(kept.fits slot member).field?_name]
      have filled := (slot.field_eq_pure_iff (kept.fits slot member).steady).mpr
        ⟨vacant, found, found_eq, rfl⟩
      rw [filled, pure_bind, reads]

theorem fields_append_eq_pure_iff (kept : shape.HasSlots slots) {parts last : Parts}
    {pairs others : List (Node × Node)} :
    fields shape outer parts (pairs ++ others) = pure last ↔
      ∃ middle, fields shape outer parts pairs = pure middle ∧
        fields shape outer middle others = pure last := by
  induction pairs generalizing parts with
  | nil =>
    constructor
    · exact fun reads => ⟨parts, rfl, reads⟩
    · rintro ⟨middle, same, reads⟩
      rw [pure_inj same]
      exact reads
  | cons pair pairs ih =>
    simp only [List.cons_append, fields_cons_eq_pure_iff kept, ih]
    constructor
    · rintro ⟨first, pairReads, middle, reads, rest⟩
      exact ⟨middle, ⟨first, pairReads, reads⟩, rest⟩
    · rintro ⟨middle, ⟨first, pairReads, reads⟩, rest⟩
      exact ⟨first, pairReads, middle, reads, rest⟩

theorem pairReads_unknown_iff (kept : shape.HasSlots slots) {key value : Node} {name : String}
    (keyed : key.word? = some name) (unknown : shape.field? name = none) {parts last : Parts} :
    PairReads shape slots outer parts (key, value) last ↔
      isComplete value = true ∧ last = parts := by
  constructor
  · intro pairReads
    cases pairReads with
    | unknown _ _ complete => exact ⟨complete, rfl⟩
    | @known _ _ slot found member keyedAgain =>
      rw [keyed, Option.some.injEq] at keyedAgain
      rw [keyedAgain, (kept.fits slot member).field?_name] at unknown
      cases unknown
  · rintro ⟨complete, rfl⟩
    exact .unknown keyed unknown complete

theorem pairReads_known_iff (kept : shape.HasSlots slots) {key value : Node} {slot : Slot Parts}
    (member : slot ∈ slots) (keyed : key.word? = some slot.name) {parts last : Parts} :
    PairReads shape slots outer parts (key, value) last ↔
      slot.get parts = none ∧ ∃ found,
        slot.read outer (stepTo key slot.name :: outer.1) value = pure found ∧
          last = slot.put parts (some found) := by
  constructor
  · intro pairReads
    cases pairReads with
    | unknown keyedAgain unknown _ =>
      rw [keyed, Option.some.injEq] at keyedAgain
      rw [← keyedAgain, (kept.fits slot member).field?_name] at unknown
      cases unknown
    | @known _ _ other found otherMember keyedAgain vacant reads =>
      rw [keyed, Option.some.injEq] at keyedAgain
      obtain rfl := kept.eq_of_name_eq member otherMember keyedAgain
      exact ⟨vacant, found, reads, rfl⟩
  · rintro ⟨vacant, found, reads, rfl⟩
    exact .known member keyed vacant reads

/-- Two pairs may be read in either order: if both have known keys, the keys are different. -/
theorem PairReads.swap (kept : shape.HasSlots slots) {parts middle last : Parts}
    {first second : Node × Node} (reads : PairReads shape slots outer parts first middle)
    (readsAfter : PairReads shape slots outer middle second last) :
    ∃ between, PairReads shape slots outer parts second between ∧
      PairReads shape slots outer between first last := by
  cases reads with
  | unknown keyed unknown complete => exact ⟨last, readsAfter, .unknown keyed unknown complete⟩
  | @known _ _ slot found member keyed vacant found_eq =>
    cases readsAfter with
    | unknown keyedAfter unknown complete =>
      exact ⟨parts, .unknown keyedAfter unknown complete, .known member keyed vacant found_eq⟩
    | @known _ _ other otherFound otherMember otherKeyed otherVacant otherFound_eq =>
      by_cases same : slot = other
      · subst same
        rw [(kept.fits slot member).get_put] at otherVacant
        cases otherVacant
      · have apart := kept.apart.forall member otherMember same
        rw [apart.other_get_put] at otherVacant
        rw [← apart.put_comm]
        refine ⟨_, .known otherMember otherKeyed otherVacant otherFound_eq, ?_⟩
        apply PairReads.known member keyed _ found_eq
        rw [apart.get_put, vacant]

theorem fields_of_perm (kept : shape.HasSlots slots) {pairs others : List (Node × Node)}
    (reordered : pairs.Perm others) {parts last : Parts}
    (reads : fields shape outer parts pairs = pure last) :
    fields shape outer parts others = pure last := by
  induction reordered generalizing parts with
  | nil => exact reads
  | cons pair _ ih =>
    rw [fields_cons_eq_pure_iff kept] at reads ⊢
    obtain ⟨middle, pairReads, reads⟩ := reads
    exact ⟨middle, pairReads, ih reads⟩
  | swap first second rest =>
    simp only [fields_cons_eq_pure_iff kept] at reads ⊢
    obtain ⟨middle, readsSecond, between, readsFirst, reads⟩ := reads
    obtain ⟨between', readsFirst, readsSecond⟩ := readsSecond.swap kept readsFirst
    exact ⟨between', readsFirst, between, readsSecond, reads⟩
  | trans _ _ ih ih' => exact ih' (ih reads)

/-- A key that does not occur leaves its slot alone. -/
theorem get_of_absent (kept : shape.HasSlots slots) {slot : Slot Parts} (member : slot ∈ slots)
    {pairs : List (Node × Node)} (absent : ∀ pair ∈ pairs, pair.1.word? ≠ some slot.name)
    {parts last : Parts} (reads : fields shape outer parts pairs = pure last) :
    slot.get last = slot.get parts := by
  induction pairs generalizing parts with
  | nil => rw [pure_inj reads]
  | cons pair pairs ih =>
    obtain ⟨middle, pairReads, reads⟩ := (fields_cons_eq_pure_iff kept).mp reads
    have different := absent pair (List.mem_cons_self ..)
    rw [ih (fun pair member => absent pair (List.mem_cons_of_mem _ member)) reads]
    cases pairReads with
    | unknown keyed unknown complete => rfl
    | @known _ _ other found otherMember keyed vacant found_eq =>
      have name_ne : slot.name ≠ other.name := by
        intro same
        exact different (same ▸ keyed)
      rw [(kept.apart_of_ne member otherMember name_ne).get_put]

end

end Reading

end Emend
