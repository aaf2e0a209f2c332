/-
# Programs that spell texts

From a place on a program reads some given bytes, one after the other, before anything else can
happen.  In the program of an expression over characters they are a text wherever an instruction that
reads no given byte leads to.
-/

import Emend.Proofs.Pattern.Assembled
import Emend.Proofs.Pattern.Unicode

namespace Emend.Pattern

open Bytes (IsText)

/-- The instruction reads a whole character or nothing. -/
def Instruction.IsWhole : Instruction → Prop
  | .exactly .. => False
  | .byte set _ => isAsciiSet set = true
  | _ => True

namespace Program

/-- The given bytes that a program reads from a place on, up to an instruction that reads a whole
character or nothing. -/
inductive Spells (program : Program) : (place : Nat) → Bytes → Prop where
  | whole {place : Nat} {instruction : Instruction}
      (at_place : program[place]? = some instruction) (whole : instruction.IsWhole) :
      Spells program place []
  | exactly {place next : Nat} {value : UInt8} {rest : Bytes}
      (at_place : program[place]? = some (.exactly value next)) (others : Spells program next rest) :
      Spells program place (value :: rest)

/-- The bytes given from a place on are a text. -/
def SpellsText (program : Program) (place : Nat) : Prop :=
  ∃ bytes, program.Spells place bytes ∧ IsText bytes

/-- After a whole character or nothing, the bytes given are a text. -/
def IsTextual (program : Program) : Prop :=
  ∀ (place : Nat) (instruction : Instruction), program[place]? = some instruction →
    instruction.IsWhole → ∀ target ∈ instruction.targets, program.SpellsText target

variable {program middle : Program} {instruction other : Instruction} {place number : Nat}
  {bytes : Bytes}

/-! ## Appending an instruction -/

theorem getElem?_push_of_eq_some (at_place : program[place]? = some other) :
    (program.push instruction)[place]? = some other := by
  obtain ⟨inside, -⟩ := Array.getElem?_eq_some_iff.mp at_place
  rwa [Array.getElem?_push, if_neg (Nat.ne_of_lt inside)]

theorem Spells.push (spells : program.Spells place bytes) :
    Spells (program.push instruction) place bytes := by
  induction spells with
  | whole at_place whole => exact .whole (getElem?_push_of_eq_some at_place) whole
  | exactly at_place others ih => exact .exactly (getElem?_push_of_eq_some at_place) ih

theorem SpellsText.push (spells : program.SpellsText place) :
    SpellsText (program.push instruction) place := by
  obtain ⟨bytes, spells, isText⟩ := spells
  exact ⟨bytes, spells.push, isText⟩

theorem IsTextual.push (textual : program.IsTextual)
    (targets : instruction.IsWhole → ∀ target ∈ instruction.targets, program.SpellsText target) :
    IsTextual (program.push instruction) := by
  intro place other at_place whole target member
  rw [Array.getElem?_push] at at_place
  split at at_place
  · cases at_place
    exact (targets whole target member).push
  · exact (textual place other at_place whole target member).push

/-! ## Putting an instruction in the place of another -/

theorem Spells.replace (spells : program.Spells place bytes) (before : program.Spells number [])
    (whole : instruction.IsWhole) :
    Spells (program.setIfInBounds number instruction) place bytes := by
  cases before with
  | @whole number former at_number formerWhole =>
    obtain ⟨inside, -⟩ := Array.getElem?_eq_some_iff.mp at_number
    induction spells with
    | @whole place other at_place otherWhole =>
      by_cases same : place = number
      · subst same
        exact .whole (Array.getElem?_setIfInBounds_self_of_lt inside) whole
      · refine .whole ?_ otherWhole
        rwa [Array.getElem?_setIfInBounds_ne (Ne.symm same)]
    | @exactly place next value rest at_place others ih =>
      have different : number ≠ place := by
        rintro rfl
        rw [at_number] at at_place
        cases at_place
        exact formerWhole
      refine .exactly ?_ ih
      rwa [Array.getElem?_setIfInBounds_ne different]

theorem SpellsText.replace (spells : program.SpellsText place) (before : program.Spells number [])
    (whole : instruction.IsWhole) :
    SpellsText (program.setIfInBounds number instruction) place := by
  obtain ⟨bytes, spells, isText⟩ := spells
  exact ⟨bytes, spells.replace before whole, isText⟩

theorem IsTextual.replace (textual : program.IsTextual) (before : program.Spells number [])
    (whole : instruction.IsWhole)
    (targets : ∀ target ∈ instruction.targets, program.SpellsText target) :
    IsTextual (program.setIfInBounds number instruction) := by
  intro place other at_place otherWhole target member
  rw [Array.getElem?_setIfInBounds] at at_place
  split at at_place
  · split at at_place
    · cases at_place
      exact (targets target member).replace before whole
    · cases at_place
  · exact (textual place other at_place otherWhole target member).replace before whole

end Program

open Program

/-! ## Instructions of an expression -/

/-- Instructions have been appended to a program, which still spells what it has before, and where
they are entered the bytes given are a text. -/
structure AppendsText (program : Program) (result : Nat × Program) : Prop where
  keeps : ∀ place bytes, program.Spells place bytes → result.2.Spells place bytes
  entry : result.2.SpellsText result.1
  textual : result.2.IsTextual

variable {program middle : Program} {next entry : Nat} {result : Nat × Program}
  {part : Nat → Program → Nat × Program}

namespace AppendsText

theorem keepsText {place : Nat} (appends : AppendsText program result)
    (spells : program.SpellsText place) : result.2.SpellsText place := by
  obtain ⟨bytes, spells, isText⟩ := spells
  exact ⟨bytes, appends.keeps place bytes spells, isText⟩

theorem none (textual : program.IsTextual) (spells : program.SpellsText next) :
    AppendsText program (next, program) where
  keeps _ _ spells := spells
  entry := spells
  textual := textual

theorem trans (first : AppendsText program (entry, middle)) (second : AppendsText middle result) :
    AppendsText program result where
  keeps place bytes spells := second.keeps place bytes (first.keeps place bytes spells)
  entry := second.entry
  textual := second.textual

theorem emit {instruction : Instruction} (textual : program.IsTextual)
    (whole : instruction.IsWhole)
    (targets : ∀ target ∈ instruction.targets, program.SpellsText target) :
    AppendsText program (program.emit instruction) where
  keeps _ _ spells := spells.push
  entry := ⟨[], .whole Array.getElem?_push_size whole, Bytes.isText_nil⟩
  textual := textual.push fun _ => targets

/-- A choice takes the place that was left for it. -/
theorem placeChoice (greedy : Bool) (spells : program.SpellsText next)
    (appends : AppendsText (program.emit .accept).2 (entry, middle)) :
    AppendsText program (entry, middle.placeChoice program.size greedy entry next) ∧
      Spells (middle.placeChoice program.size greedy entry next) program.size [] := by
  let choice : Instruction := if greedy then .branch entry next else .branch next entry
  have whole : choice.IsWhole := by cases greedy <;> trivial
  have before : middle.Spells program.size [] :=
    appends.keeps _ _ (.whole Array.getElem?_push_size trivial)
  have next_text : middle.SpellsText next := appends.keepsText spells.push
  have targets : ∀ target ∈ choice.targets, middle.SpellsText target := by
    intro target member
    have either : target = entry ∨ target = next := by
      cases greedy <;> simp [choice, Instruction.targets] at member <;> tauto
    rcases either with rfl | rfl
    · exact appends.entry
    · exact next_text
  refine ⟨⟨?_, appends.entry.replace before whole, appends.textual.replace before whole targets⟩,
    before.replace before whole⟩
  intro place bytes spells
  exact (appends.keeps place bytes spells.push).replace before whole

end AppendsText

/-- A way to append instructions that go on at a given place. -/
def IsTextualPart (part : Nat → Program → Nat × Program) : Prop :=
  ∀ {next : Nat} {program : Program}, program.IsTextual → program.SpellsText next →
    AppendsText program (part next program)

theorem appendsText_emitChoice {onward other : Nat} (greedy : Bool) (textual : program.IsTextual)
    (onwardText : program.SpellsText onward) (otherText : program.SpellsText other) :
    AppendsText program (program.emitChoice greedy onward other) := by
  cases greedy with
  | true => exact .emit textual trivial (by simp [Instruction.targets, onwardText, otherText])
  | false => exact .emit textual trivial (by simp [Instruction.targets, onwardText, otherText])

/-- The bytes of a literal, given from the last, are spelled before what comes after it. -/
theorem spells_emitBytes {rest : Bytes} (textual : program.IsTextual)
    (spells : program.Spells next rest) (reversed : Bytes) :
    (∀ place bytes, program.Spells place bytes →
        (program.emitBytes next reversed).2.Spells place bytes) ∧
      (program.emitBytes next reversed).2.Spells (program.emitBytes next reversed).1
        (reversed.reverse ++ rest) ∧
      (program.emitBytes next reversed).2.IsTextual := by
  induction reversed generalizing program next rest with
  | nil => exact ⟨fun _ _ spells => spells, spells, textual⟩
  | cons b before ih =>
    let grown : Program := program.push (.exactly b next)
    have grown_textual : grown.IsTextual := textual.push False.elim
    have grown_spells : grown.Spells program.size (b :: rest) :=
      .exactly Array.getElem?_push_size spells.push
    obtain ⟨keeps, spelled, stays⟩ := ih grown_textual grown_spells
    refine ⟨fun place bytes spells => keeps place bytes spells.push, ?_, stays⟩
    rw [List.reverse_cons, List.append_assoc]
    exact spelled

theorem appendsText_emitBytes {bytes : Bytes} (isText : IsText bytes) (textual : program.IsTextual)
    (spells : program.SpellsText next) :
    AppendsText program (program.emitBytes next bytes.reverse) := by
  obtain ⟨rest, spells, isRest⟩ := spells
  obtain ⟨keeps, spelled, stays⟩ := spells_emitBytes textual spells bytes.reverse
  rw [List.reverse_reverse] at spelled
  exact ⟨keeps, ⟨_, spelled, isText.append isRest⟩, stays⟩

theorem appendsText_emitTimes (isPart : IsTextualPart part) (textual : program.IsTextual)
    (spells : program.SpellsText next) (count : Nat) :
    AppendsText program (Program.emitTimes part next program count) := by
  induction count generalizing program next with
  | zero => exact .none textual spells
  | succ count ih =>
    have first := isPart textual spells
    exact first.trans (ih first.textual first.entry)

theorem appendsText_emitUpTo {inner : Nat} (isPart : IsTextualPart part) (greedy : Bool)
    (textual : program.IsTextual) (nextText : program.SpellsText next)
    (innerText : program.SpellsText inner) (count : Nat) :
    AppendsText program (Program.emitUpTo part greedy next inner program count) := by
  induction count generalizing program inner with
  | zero => exact .none textual innerText
  | succ count ih =>
    have first := isPart textual innerText
    have next_first := first.keepsText nextText
    have second := appendsText_emitChoice greedy first.textual first.entry next_first
    have later := ih second.textual (second.keepsText next_first) second.entry
    exact first.trans (second.trans later)

/-- The instructions of an expression over characters are entered with a text. -/
theorem appendsText_assemble {expr : Expr} (isTextual : expr.IsTextual)
    (textual : program.IsTextual) (spells : program.SpellsText next) :
    AppendsText program (expr.assemble next program) := by
  induction expr generalizing next program with
  | empty => exact .none textual spells
  | literal bytes => exact appendsText_emitBytes isTextual textual spells
  | scalar set | look kind =>
    exact .emit textual trivial (List.forall_mem_singleton.mpr spells)
  | byte set => exact .emit textual isTextual (List.forall_mem_singleton.mpr spells)
  | seq first second firstIh secondIh =>
    have last := secondIh isTextual.2 textual spells
    exact last.trans (firstIh isTextual.1 last.textual last.entry)
  | alt first second firstIh secondIh =>
    have second := secondIh isTextual.2 textual spells
    have first := firstIh isTextual.1 second.textual (second.keepsText spells)
    refine second.trans (first.trans (.emit first.textual trivial ?_))
    simp [Instruction.targets, first.entry, first.keepsText second.entry]
  | rep least most greedy part ih =>
    have isPart : IsTextualPart fun next program => part.assemble next program := ih isTextual
    cases most with
    | some most =>
      have optional := appendsText_emitUpTo isPart greedy textual spells spells (most - least)
      exact optional.trans (appendsText_emitTimes isPart optional.textual optional.entry least)
    | none =>
      have placeholder : AppendsText program (program.emit .accept) :=
        .emit textual trivial (by simp [Instruction.targets])
      have inner : AppendsText (program.emit .accept).2
          (part.assemble program.size (program.emit .accept).2) :=
        ih isTextual placeholder.textual placeholder.entry
      obtain ⟨loop, loop_spells⟩ := inner.placeChoice greedy spells
      cases least with
      | zero =>
        simp only [Expr.assemble]
        split
        · exact ⟨loop.keeps, ⟨[], loop_spells, Bytes.isText_nil⟩, loop.textual⟩
        · exact loop.trans
            (appendsText_emitChoice greedy loop.textual loop.entry (loop.keepsText spells))
      | succ more => exact loop.trans (appendsText_emitTimes isPart loop.textual loop.entry more)
  | capture index part ih =>
    have close : AppendsText program (program.emit (.save (2 * index + 1) next)) :=
      .emit textual trivial (List.forall_mem_singleton.mpr spells)
    have inner := ih isTextual close.textual close.entry
    refine close.trans (inner.trans (.emit inner.textual trivial ?_))
    exact List.forall_mem_singleton.mpr inner.entry

/-- The program of an expression over characters. -/
theorem Expr.isTextual_program {expr : Expr} (isTextual : expr.IsTextual) :
    expr.program.2.IsTextual ∧ expr.program.2.SpellsText expr.program.1 := by
  let bottom : Program := #[.accept]
  have accepts : bottom.Spells 0 [] := .whole rfl (True.intro : Instruction.IsWhole .accept)
  have textual : bottom.IsTextual := by
    intro place instruction at_place _ target member
    cases place with
    | zero =>
      cases at_place
      cases member
    | succ place => cases at_place
  have captured : (Expr.capture 0 expr).IsTextual := isTextual
  have appends : AppendsText bottom expr.program :=
    appendsText_assemble captured textual ⟨[], accepts, Bytes.isText_nil⟩
  exact ⟨appends.textual, appends.entry⟩

end Emend.Pattern
