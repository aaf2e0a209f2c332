/-
# What a reading depends on

A reading looks at the document around it only to follow references and to say why it ends early.
So one that ends well without following a reference is nothing but its value, and the same in every
other document.  A reading of that kind is called steady here; all readings of configurations are.

Counting is what makes this compose: the number of references that have been followed never falls,
so a sequence of readings follows none only if each of them follows none.
-/

import Emend.Config.Reading

namespace Emend

open Yaml

mutual

/-- Whether there is no reference in a node. -/
def Yaml.Node.isReferenceFree : Node → Bool
  | .sequence _ items => areReferenceFree items
  | .mapping _ pairs => pairsAreReferenceFree pairs
  | .alias _ => false
  | _ => true

/-- Whether there is no reference in any of several nodes. -/
def Yaml.Node.areReferenceFree : List Node → Bool
  | [] => true
  | node :: nodes => isReferenceFree node && areReferenceFree nodes

/-- Whether there is no reference in any of several pairs. -/
def Yaml.Node.pairsAreReferenceFree : List (Node × Node) → Bool
  | [] => true
  | (key, value) :: pairs =>
    isReferenceFree key && isReferenceFree value && pairsAreReferenceFree pairs

end

namespace Reading

variable {α β Parts : Type} {p q : Prop} {reading : Reading α} {next : α → Reading β}

/-- Wherever a reading ends well, the count of references has not fallen; and if it has not risen,
or `still` holds, the reading is its value. -/
def Steady (still : Prop) (reading : Reading α) : Prop :=
  ∀ (document : Document) (count : Nat) (value : α) (count' : Nat),
    (reading document).run count = .ok (value, count') →
      count ≤ count' ∧ (still ∨ count' = count → reading = pure value)

theorem exists_of_bind {document : Document} {count last : Nat} {value : β}
    (ends : ((reading >>= next) document).run count = .ok (value, last)) :
    ∃ first middle, (reading document).run count = .ok (first, middle) ∧
      (next first document).run middle = .ok (value, last) := by
  change ((reading document).run count >>= fun result =>
    (next result.1 document).run result.2) = .ok (value, last) at ends
  cases found : (reading document).run count with
  | error fault =>
    rw [found] at ends
    cases ends
  | ok result =>
    rw [found] at ends
    exact ⟨result.1, result.2, rfl, ends⟩

theorem Steady.mono (steady : Steady p reading) (weaker : q → p) : Steady q reading := by
  intro document count value count' ends
  obtain ⟨grows, same⟩ := steady document count value count' ends
  exact ⟨grows, fun still => same (still.imp_left weaker)⟩

theorem steady_pure (value : α) : Steady p (pure value : Reading α) := by
  intro document count value' count' ends
  cases ends
  exact ⟨Nat.le_refl count, fun _ => rfl⟩

/-! ## Readings that end early -/

/-- A reading never ends well. -/
def Fails (reading : Reading α) : Prop :=
  ∀ (document : Document) (count : Nat), ((reading document).run count).isOk = false

theorem Fails.ne_ok (fails : Fails reading) {document : Document} {count : Nat}
    (result : α × Nat) : (reading document).run count ≠ .ok result := by
  intro ends
  have refused := fails document count
  rw [ends] at refused
  cases refused

theorem Fails.steady (fails : Fails reading) : Steady p reading :=
  fun _ _ _ _ ends => absurd ends (fails.ne_ok _)

theorem fails_refuse (location : Location) (mark : Mark) (fault : ShapeFault) :
    Fails (refuse location mark fault : Reading α) :=
  fun _ _ => rfl

theorem fails_breakOff : Fails (breakOff : Reading α) := by
  intro document count
  obtain ⟨root, anchors, eventCount, ending⟩ := document
  cases ending <;> rfl

theorem fails_refuseScalar (location : Location) (mark : Mark) (tag : Option Bytes)
    (text : List Char) (isPlain : Bool) (expected : Expected) :
    Fails (refuseScalar location mark tag text isPlain expected : Reading α) := by
  rw [refuseScalar]
  cases Untyped.ofScalar tag text isPlain with
  | ok value => exact fails_refuse location mark _
  | error tag => exact fails_refuse location mark _

/-! ## Sequences of steady readings -/

theorem Steady.bind (first : Steady p reading) (others : ∀ value, Steady q (next value)) :
    Steady (p ∧ q) (reading >>= next) := by
  intro document count value last ends
  obtain ⟨earlier, middle, ends, endsAfter⟩ := exists_of_bind ends
  obtain ⟨grows, same⟩ := first document count earlier middle ends
  obtain ⟨growsAfter, sameAfter⟩ := others earlier document middle value last endsAfter
  refine ⟨Nat.le_trans grows growsAfter, ?_⟩
  intro still
  have stillFirst : p ∨ middle = count := still.imp And.left fun level => by omega
  have stillAfter : q ∨ last = middle := still.imp And.right fun level => by omega
  rw [same stillFirst, pure_bind, sameAfter stillAfter]

/-- A value that comes out of two steady readings in a row comes out of each of them. -/
theorem Steady.exists_of_bind_eq_pure {value : β} (first : Steady p reading)
    (others : ∀ value, Steady q (next value)) (reads : (reading >>= next) = pure value) :
    ∃ earlier, reading = pure earlier ∧ next earlier = pure value := by
  let document : Document := ⟨none, [], 0, .only⟩
  have ends : ((reading >>= next) document).run 0 = .ok (value, 0) := by
    rw [reads]
    rfl
  obtain ⟨earlier, middle, ends, endsAfter⟩ := exists_of_bind ends
  obtain ⟨grows, same⟩ := first document 0 earlier middle ends
  obtain ⟨growsAfter, sameAfter⟩ := others earlier document middle value 0 endsAfter
  exact ⟨earlier, same (.inr (by omega)), sameAfter (.inr (by omega))⟩

/-- Following a reference raises the count, so what is read of its target need not be looked at. -/
theorem steady_resolve_bind {next : Node → Reading α} (node : Node)
    (steady : ∀ node, Steady (node.isReferenceFree = true) (next node)) :
    Steady (node.isReferenceFree = true) (resolve node >>= next) := by
  cases node with
  | «alias» anchor =>
    intro document count value last ends
    obtain ⟨target, middle, ends, endsAfter⟩ := exists_of_bind ends
    have raised : middle = count + 1 := by
      change ((if document.eventCount * referencesPerEvent < count + 1
        then throw .tooManyReferences
        else pure ((document.target? anchor).getD .hole) : Reading Node) document).run (count + 1)
          = .ok (target, middle) at ends
      split at ends
      · cases ends
      · cases ends
        rfl
    obtain ⟨grows, -⟩ := steady target document middle value last endsAfter
    refine ⟨by omega, ?_⟩
    rintro (free | level)
    · cases free
    · omega
  | _ => exact steady _

/-! ## Readings of nodes -/

/-- A way of reading nodes is steady, and still where there are no references. -/
def ReadsSteadily (readNode : Location → Node → Reading α) : Prop :=
  ∀ (location : Location) (node : Node),
    Steady (node.isReferenceFree = true) (readNode location node)

theorem text_readsSteadily (expected : Expected) : ReadsSteadily (text expected) := by
  intro location node
  apply steady_resolve_bind
  intro node
  cases node with
  | scalar mark tag text isPlain => exact steady_pure _
  | sequence mark items => exact (fails_refuse location mark _).steady
  | mapping mark pairs => exact (fails_refuse location mark _).steady
  | «alias» anchor => exact fails_breakOff.steady
  | hole => exact fails_breakOff.steady

theorem steady_isEmptyList (outer : Location × Mark) (tag : Option Bytes) (text : List Char)
    (isPlain : Bool) : Steady p (isEmptyList outer tag text isPlain) := by
  cases tag with
  | none => exact steady_pure _
  | some name =>
    simp only [isEmptyList]
    split
    · split
      · exact steady_pure _
      · exact (fails_refuse _ _ _).steady
    · exact steady_pure _

theorem steady_ignore (node : Node) : Steady p (ignore node) := by
  rw [ignore]
  split
  · exact steady_pure _
  · exact fails_breakOff.steady

section

variable {readItem : Location → Node → Reading α}

theorem steady_items (steady : ReadsSteadily readItem) (location : Location) (index : Nat)
    (nodes : List Node) :
    Steady (Node.areReferenceFree nodes = true) (items readItem location index nodes) := by
  induction nodes generalizing index with
  | nil => exact steady_pure _
  | cons node nodes ih =>
    have others (first : α) : Steady (Node.areReferenceFree nodes = true ∧ True)
        (items readItem location (index + 1) nodes >>= fun rest => pure (first :: rest)) :=
      (ih (index + 1)).bind fun rest => steady_pure (first :: rest)
    apply ((steady _ node).bind others).mono
    intro free
    rw [Node.areReferenceFree, Bool.and_eq_true] at free
    exact ⟨free.1, free.2, trivial⟩

theorem list_readsSteadily (steady : ReadsSteadily readItem) (outer : Location × Mark) :
    ReadsSteadily (list readItem outer) := by
  intro location node
  apply steady_resolve_bind
  intro node
  cases node with
  | scalar mark tag text isPlain =>
    apply ((steady_isEmptyList (p := True) outer tag text isPlain).bind (q := True) ?_).mono
    · exact fun _ => ⟨trivial, trivial⟩
    · intro isEmpty
      cases isEmpty with
      | true => exact steady_pure _
      | false => exact (fails_refuseScalar location mark tag text isPlain _).steady
  | sequence mark nodes => exact steady_items steady location 0 nodes
  | mapping mark pairs => exact (fails_refuse location mark _).steady
  | «alias» anchor => exact fails_breakOff.steady
  | hole => exact fails_breakOff.steady

end

/-! ## Records -/

theorem steady_once (name : String) (earlier : Option α) (outer : Location × Mark)
    (steady : Steady p reading) : Steady p (once name earlier outer reading) := by
  have rest : Steady (p ∧ True) (reading >>= fun value => pure (some value)) :=
    steady.bind fun value => steady_pure (some value)
  cases earlier with
  | none => exact rest.mono fun still => ⟨still, trivial⟩
  | some value => exact (fails_refuse outer.1 outer.2 _).steady

section

variable {shape : RecordShape Parts α}

/-- The known keys of a record are read steadily. -/
def RecordShape.IsSteady (shape : RecordShape Parts α) : Prop :=
  ∀ (name : String) (readField : Location × Mark → Location → Node → Parts → Reading Parts),
    shape.field? name = some readField →
    ∀ (outer : Location × Mark) (location : Location) (node : Node) (parts : Parts),
      Steady (node.isReferenceFree = true) (readField outer location node parts)

theorem steady_fields (steady : shape.IsSteady) (outer : Location × Mark) (parts : Parts)
    (pairs : List (Node × Node)) :
    Steady (Node.pairsAreReferenceFree pairs = true) (fields shape outer parts pairs) := by
  induction pairs generalizing parts with
  | nil => exact steady_pure _
  | cons pair pairs ih =>
    obtain ⟨key, value⟩ := pair
    rw [fields]
    apply ((text_readsSteadily .key outer.1 key).bind (q := value.isReferenceFree = true ∧
      Node.pairsAreReferenceFree pairs = true) ?_).mono
    · intro free
      rw [Node.pairsAreReferenceFree, Bool.and_eq_true, Bool.and_eq_true] at free
      exact ⟨free.1.1, free.1.2, free.2⟩
    · intro name
      simp only
      split
      · rename_i readField known
        exact (steady name readField known outer _ value parts).bind ih
      · exact ((steady_ignore (p := True) value).bind fun _ => ih parts).mono
          fun free => ⟨trivial, free.2⟩

theorem steady_complete (outer : Location × Mark) (parts : Parts) :
    Steady p (complete shape outer parts) := by
  rw [complete]
  split
  · exact steady_pure _
  · exact (fails_refuse _ _ _).steady

theorem record_readsSteadily (steady : shape.IsSteady) : ReadsSteadily (record shape) := by
  intro location node
  apply steady_resolve_bind
  intro node
  cases node with
  | mapping mark pairs =>
    exact ((steady_fields steady (location, mark) shape.start pairs).bind
      fun parts => steady_complete (p := True) (location, mark) parts).mono
        fun free => ⟨free, trivial⟩
  | scalar mark tag text isPlain =>
    simp only
    split
    · exact steady_complete _ _
    · exact (fails_refuseScalar location mark tag text isPlain _).steady
  | sequence mark items => exact (fails_refuse location mark _).steady
  | «alias» anchor => exact fails_breakOff.steady
  | hole => exact fails_breakOff.steady

/-- A record that has been read is what some parts make. -/
theorem exists_finish_of_record {location : Location} {node : Node} {document : Document}
    {count last : Nat} {value : α}
    (ends : (record shape location node document).run count = .ok (value, last)) :
    ∃ parts, shape.finish parts = .ok value := by
  have completed {outer : Location × Mark} {parts : Parts} {middle : Nat}
      (ends : (complete shape outer parts document).run middle = .ok (value, last)) :
      ∃ parts, shape.finish parts = .ok value := by
    rw [complete] at ends
    cases found : shape.finish parts with
    | ok record =>
      rw [found] at ends
      cases ends
      exact ⟨parts, found⟩
    | error name =>
      rw [found] at ends
      cases ends
  obtain ⟨target, middle, -, ends⟩ := exists_of_bind ends
  cases target with
  | mapping mark pairs =>
    obtain ⟨parts, later, -, ends⟩ := exists_of_bind ends
    exact completed ends
  | scalar mark tag text isPlain =>
    simp only at ends
    by_cases isVoid : (text.isEmpty && isPlain) = true
    · rw [if_pos isVoid] at ends
      exact completed ends
    · rw [if_neg isVoid] at ends
      exact absurd ends ((fails_refuseScalar location mark tag text isPlain _).ne_ok _)
  | sequence mark items => cases ends
  | «alias» anchor => exact absurd ends (fails_breakOff.ne_ok _)
  | hole => exact absurd ends (fails_breakOff.ne_ok _)

end

end Reading

end Emend
