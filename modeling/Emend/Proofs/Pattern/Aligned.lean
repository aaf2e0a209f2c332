/-
# Searches through a text

A search goes through a content byte by byte, and it may start inside of a character.  From there a
pattern that leaves Unicode on reads nothing: it reads characters and texts, and in a text these
stand between characters.  So a match and its groups start and stop between characters, or all of
them are empty at one position.
-/

import Emend.Proofs.Pattern.Spelled
import Emend.Proofs.Pattern.Scan
import Emend.Proofs.Pattern.Literal

namespace Emend

namespace Pattern

open Bytes (IsText IsBoundary)

variable {content : Bytes} {program : Program} {instruction : Instruction} {slots : Slots}
  {entry slotCount start place next position last : Nat}

/-! ## Positions of a match -/

/-- Seen from where a match starts, a position that cuts no character unless the start does, and then
only if it is the start. -/
def Aligned (content : Bytes) (start position : Nat) : Prop :=
  position = start ∨ (IsBoundary content start ∧ IsBoundary content position)

namespace Aligned

theorem refl (content : Bytes) (start : Nat) : Aligned content start start := .inl rfl

/-- A text that is read leads on. -/
theorem onward (isText : IsText content) (aligned : Aligned content start last)
    (le : last ≤ position) (inside : IsText (content.extract last position)) :
    Aligned content start position := by
  rcases isText.eq_or_isBoundary le inside with rfl | ⟨before, behind⟩
  · exact aligned
  · rcases aligned with rfl | ⟨boundary, -⟩
    · exact .inr ⟨before, behind⟩
    · exact .inr ⟨boundary, behind⟩

theorem isText_extract {stop : Nat} (first : Aligned content start position)
    (second : Aligned content start stop) : IsText (content.extract position stop) := by
  have nothing : IsText (content.extract start start) := by
    rw [Bytes.extract_self]
    exact Bytes.isText_nil
  rcases first with rfl | ⟨boundary, before⟩
  · rcases second with rfl | ⟨boundary, behind⟩
    · exact nothing
    · exact boundary.isText_extract behind
  · rcases second with rfl | ⟨-, behind⟩
    · exact before.isText_extract boundary
    · exact before.isText_extract behind

end Aligned

/-! ## Reading -/

theorem isText_of_contains {set : Unicode.Ranges} {b : UInt8} (ascii : isAsciiSet set = true)
    (member : set.contains b.toNat = true) : IsText [b] := by
  obtain ⟨ranges⟩ := set
  have small : b.toNat < 0x80 := by
    simp only [isAsciiSet, Unicode.Ranges.contains] at ascii member
    induction ranges with
    | nil => cases member
    | cons range ranges ih =>
      simp only [List.all_cons, Bool.and_eq_true, decide_eq_true_eq] at ascii
      simp only [Unicode.Ranges.containsFrom] at member
      split at member
      · cases member
      · rcases Bool.or_eq_true_iff.mp member with within | later
        · have le := of_decide_eq_true within
          omega
        · exact ih ascii.2 later
  exact Bytes.isText_singleton small

/-- What an instruction reads that reads no given byte is a text. -/
theorem isText_of_reads {length : Nat} (at_place : program[place]? = some instruction)
    (whole : instruction.IsWhole)
    (read : reads program content.toArray position place = some (next, length)) :
    next ∈ instruction.targets ∧ IsText (content.extract position (position + length)) := by
  cases instruction with
  | exactly value other => exact whole.elim
  | byte set other =>
    simp only [reads, at_place, List.getElem?_toArray] at read
    split at read
    · rename_i member
      cases read
      obtain ⟨b, at_position, member⟩ := (Option.any_eq_true _ _).mp member
      rw [Bytes.extract_succ (Nat.le_refl position) at_position, Bytes.extract_self]
      exact ⟨List.mem_singleton_self _, isText_of_contains whole member⟩
    · cases read
  | scalar set other =>
    simp only [reads, at_place] at read
    split at read
    · rename_i c length scalar
      split at read
      · cases read
        rw [Utf8.extract_of_scalarAt? scalar]
        exact ⟨List.mem_singleton_self _, Bytes.isText_utf8EncodeChar c⟩
      · cases read
    · cases read
  | look | save | branch | accept =>
    simp only [reads, at_place] at read
    cases read

theorem isWhole_of_silent {successors : List (Nat × Slots)}
    (at_place : program[place]? = some instruction)
    (goes : silent program content.toArray position place slots = some successors) :
    instruction.IsWhole := by
  cases instruction with
  | exactly | byte =>
    simp only [silent, at_place] at goes
    cases goes
  | scalar | look | save | branch | accept => trivial

/-! ## The way of a search -/

/-- What is known on the way of a search through a text.  Everything noted is aligned with the start,
and so is a position since which the bytes read, with those that the program gives next, are a
text. -/
structure IsAligned (program : Program) (content : Bytes) (start place position : Nat)
    (slots : Slots) : Prop where
  noted : ∀ slot noted : Nat, slots[slot]? = some (some noted) → Aligned content start noted
  reading : ∃ last rest, Aligned content start last ∧ last ≤ position ∧
    program.Spells place rest ∧ IsText (content.extract last position ++ rest)

namespace IsAligned

theorem whole_or_exactly (isAligned : IsAligned program content start place position slots) :
    (∃ instruction, program[place]? = some instruction ∧ instruction.IsWhole) ∨
      ∃ value next, program[place]? = some (.exactly value next) := by
  obtain ⟨last, rest, -, -, spells, -⟩ := isAligned.reading
  cases spells with
  | whole at_place whole => exact .inl ⟨_, at_place, whole⟩
  | exactly at_place => exact .inr ⟨_, _, at_place⟩

/-- Between what is read whole a search is aligned. -/
theorem aligned (isText : IsText content)
    (isAligned : IsAligned program content start place position slots)
    (at_place : program[place]? = some instruction) (whole : instruction.IsWhole) :
    Aligned content start position := by
  obtain ⟨last, rest, lastAligned, le, spells, inside⟩ := isAligned.reading
  cases spells with
  | whole =>
    rw [List.append_nil] at inside
    exact lastAligned.onward isText le inside
  | exactly given =>
    rw [at_place] at given
    cases given
    exact whole.elim

/-- Where the bytes given are a text anything can be read. -/
theorem enter (noted : ∀ slot noted : Nat, slots[slot]? = some (some noted) →
      Aligned content start noted)
    (aligned : Aligned content start position) (spells : program.SpellsText next) :
    IsAligned program content start next position slots := by
  obtain ⟨rest, spells, isText⟩ := spells
  refine ⟨noted, position, rest, aligned, Nat.le_refl position, spells, ?_⟩
  rwa [Bytes.extract_self]

/-- A position is noted. -/
theorem save {slot : Nat} (isAligned : IsAligned program content start place position slots)
    (aligned : Aligned content start position) (spells : program.SpellsText next) :
    IsAligned program content start next position
      (slots.setIfInBounds slot (some position)) := by
  apply enter _ aligned spells
  intro other noted at_slot
  rw [Array.getElem?_setIfInBounds] at at_slot
  split at at_slot
  · split at at_slot
    · cases at_slot
      exact aligned
    · cases at_slot
  · exact isAligned.noted other noted at_slot

/-- A given byte is read. -/
theorem exactly {value : UInt8} (isAligned : IsAligned program content start place position slots)
    (at_place : program[place]? = some (.exactly value next))
    (at_position : content[position]? = some value) :
    IsAligned program content start next (position + 1) slots := by
  refine ⟨isAligned.noted, ?_⟩
  obtain ⟨last, rest, lastAligned, le, spells, inside⟩ := isAligned.reading
  cases spells with
  | whole at_same whole =>
    rw [at_place] at at_same
    cases at_same
    exact whole.elim
  | @exactly _ _ _ rest at_same others =>
    rw [at_place] at at_same
    cases at_same
    refine ⟨last, rest, lastAligned, Nat.le_succ_of_le le, others, ?_⟩
    rw [Bytes.extract_succ le at_position, List.append_assoc]
    exact inside

end IsAligned

/-- A search that is entered with a text cuts no character, unless it starts inside of one and has
read nothing yet. -/
theorem isAligned_of_reaches (textual : program.IsTextual) (spells : program.SpellsText entry)
    (isText : IsText content)
    (reaches : Reaches program content.toArray entry start (Array.replicate slotCount none) place
      position slots) : IsAligned program content start place position slots := by
  induction reaches with
  | start =>
    apply IsAligned.enter _ (.refl content start) spells
    intro slot noted at_slot
    simp [Array.getElem?_replicate] at at_slot
  | silent before goes member ih =>
    rcases exists_of_mem_silent goes member with
      ⟨instruction, at_place, target, -, rfl⟩ | ⟨slot, at_place, rfl⟩
    · have whole := isWhole_of_silent at_place goes
      exact .enter ih.noted (ih.aligned isText at_place whole)
        (textual _ instruction at_place whole _ target)
    · exact ih.save (ih.aligned isText at_place trivial)
        (textual _ _ at_place trivial _ (List.mem_singleton_self _))
  | @reads place position next length slots before read ih =>
    rcases ih.whole_or_exactly with ⟨instruction, at_place, whole⟩ | ⟨value, other, at_place⟩
    · obtain ⟨target, inside⟩ := isText_of_reads at_place whole read
      have onward := (ih.aligned isText at_place whole).onward isText (Nat.le_add_right _ _) inside
      exact .enter ih.noted onward (textual place instruction at_place whole next target)
    · -- inside of a literal, where a position may well cut a character
      simp only [reads, at_place, List.getElem?_toArray] at read
      split at read
      · rename_i at_position
        cases read
        exact ih.exactly at_place at_position
      · cases read

/-! ## Single matches -/

/-- All ends of a match and of its groups are between characters, or else they are where the match
starts. -/
structure Match.IsAligned (content : Bytes) (found : Match) : Prop where
  stop : Aligned content found.start found.stop
  groups : ∀ index start stop : Nat, found.groups[index]? = some (some (start, stop)) →
    Aligned content found.start start ∧ Aligned content found.start stop

/-- Only texts are searched for. -/
def Strategy.IsTextual : Strategy → Prop
  | .literal bytes => IsText bytes
  | .program entry program => program.IsTextual ∧ program.SpellsText entry

namespace Regex

variable {regex : Regex} {found : Match} {hits : List Match}

theorem isTextual_of_compile {pattern : String} {tree : Tree}
    (compiles : compile pattern = .ok regex) (parsed : Tree.parse pattern = .ok tree)
    (keeps : tree.keepsUnicode = true) : regex.strategy.IsTextual := by
  simp only [compile, parsed] at compiles
  split at compiles
  · cases compiles
  · rename_i expr means
    have textual := Tree.isTextual_of_meaning keeps means
    split at compiles
    · cases compiles
      unfold ofExpr
      extract_lets groupCount
      split
      · exact textual
      · exact Expr.isTextual_program textual
    · cases compiles

theorem isAligned_of_literal {literal : Bytes} (strategy : regex.strategy = .literal literal)
    (isLiteral : IsText literal) (isText : IsText content)
    (finds : regex.find? content.toArray position = some found) : found.IsAligned content := by
  simp only [find?, strategy] at finds
  split at finds
  · rename_i start start_eq
    cases finds
    have stands := (standsAt_iff content start).mp (standsAt_of_findLiteral? start_eq)
    have stop : Aligned content start (start + literal.length) := by
      apply (Aligned.refl content start).onward isText (Nat.le_add_right _ _)
      rwa [Bytes.extract_of_prefix stands]
    refine ⟨stop, fun index first last at_index => ?_⟩
    cases index with
    | zero =>
      cases at_index
      exact ⟨.refl content start, stop⟩
    | succ index => cases at_index
  · cases finds

theorem isAligned_of_program {entry : Nat} {program : Program}
    (strategy : regex.strategy = .program entry program) (searchable : IsSearchable program entry)
    (positive : 0 < regex.groupCount) (textual : program.IsTextual)
    (spells : program.SpellsText entry) (isText : IsText content)
    (finds : regex.find? content.toArray position = some found) : found.IsAligned content := by
  obtain ⟨slots, searched, whole, -, group_eq⟩ := exists_slots_of_program strategy finds
  obtain ⟨start, stop, -, -, reaches, -⟩ := searchable.exists_reaches_of_search searched
  obtain ⟨first, second, -⟩ := searchable.ends_of_reaches (by omega) reaches
  have ends_eq : groupOf slots 0 = some (start, stop) := groupOf_eq_some_iff.mpr ⟨first, second⟩
  cases whole.symm.trans ends_eq
  have noted := (isAligned_of_reaches textual spells isText reaches).noted
  refine ⟨noted 1 found.stop second, fun index start stop at_index => ?_⟩
  obtain ⟨start_eq, stop_eq⟩ := groupOf_eq_some_iff.mp (group_eq index start stop at_index)
  exact ⟨noted _ start start_eq, noted _ stop stop_eq⟩

theorem isAligned_of_find? (sound : regex.IsSound) (textual : regex.strategy.IsTextual)
    (isText : IsText content) (finds : regex.find? content.toArray position = some found) :
    found.IsAligned content := by
  cases strategy : regex.strategy with
  | literal bytes =>
    rw [strategy] at textual
    exact isAligned_of_literal strategy textual isText finds
  | program entry program =>
    rw [strategy] at textual
    exact isAligned_of_program strategy (sound.2 entry program strategy) sound.1 textual.1
      textual.2 isText finds

theorem Scans.isAligned {lastStop : Option Nat} (sound : regex.IsSound)
    (textual : regex.strategy.IsTextual) (isText : IsText content)
    (scans : Scans regex content.toArray position lastStop hits) :
    ∀ hit ∈ hits, hit.IsAligned content := by
  intro hit member
  obtain ⟨position, isFound⟩ := scans.isFound sound member
  have finds := isFound.leftmost position (Nat.le_refl position) isFound.position_le
  exact isAligned_of_find? sound textual isText finds

end Regex

end Pattern

end Emend
