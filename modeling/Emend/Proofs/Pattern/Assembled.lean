/-
# Assembled programs

The instructions of an expression stand together in a program, and nothing but the last one of them
that is appended notes where the whole match starts.  Here the way of a search through the program
of an expression is bounded: the whole match is noted from where the search starts to where it ends,
and nothing is noted outside.
-/

import Emend.Proofs.Pattern.Leftmost

namespace Emend.Pattern

variable {program middle : Program} {next : Nat}

/-! ## Instructions of an expression -/

namespace Expr

/-- The groups of an expression have positive numbers; zero is that of the whole match. -/
def IsNumbered : Expr → Prop
  | .seq first second => first.IsNumbered ∧ second.IsNumbered
  | .alt first second => first.IsNumbered ∧ second.IsNumbered
  | .rep _ _ _ part => part.IsNumbered
  | .capture index part => 0 < index ∧ part.IsNumbered
  | _ => True

end Expr

namespace Instruction

/-- The instructions that come after one. -/
def targets : Instruction → List Nat
  | .exactly _ next => [next]
  | .byte _ next => [next]
  | .scalar _ next => [next]
  | .look _ next => [next]
  | .save _ next => [next]
  | .branch first second => [first, second]
  | .accept => []

/-- An instruction inside a program of some size: it goes on inside, but not to the end of a match,
and it does not note where the whole match starts or stops. -/
structure IsInner (size : Nat) (instruction : Instruction) : Prop where
  targets : ∀ target ∈ instruction.targets, 0 < target ∧ target < size
  slots : ∀ slot next, instruction = .save slot next → 2 ≤ slot
  goes_on : instruction ≠ .accept

theorem IsInner.mono {size larger : Nat} {instruction : Instruction}
    (inner : instruction.IsInner size) (le : size ≤ larger) : instruction.IsInner larger where
  targets target member := by
    have bounds := inner.targets target member
    omega
  slots := inner.slots
  goes_on := inner.goes_on

end Instruction

/-- Instructions have been appended to a program, which keeps what it has, and the entry of the
result lies inside. -/
structure Appends (program : Program) (result : Nat × Program) : Prop where
  size_le : program.size ≤ result.2.size
  kept : ∀ place < program.size, result.2[place]? = program[place]?
  entry_pos : 0 < result.1
  entry_lt : result.1 < result.2.size
  inner : ∀ place instruction, program.size ≤ place → result.2[place]? = some instruction →
    instruction.IsInner result.2.size

namespace Appends

variable {entry : Nat} {result : Nat × Program}

theorem none (positive : 0 < next) (inside : next < program.size) :
    Appends program (next, program) where
  size_le := Nat.le_refl _
  kept _ _ := rfl
  entry_pos := positive
  entry_lt := inside
  inner place instruction beyond at_place := by
    rw [Array.getElem?_eq_none beyond] at at_place
    cases at_place

theorem trans (first : Appends program (entry, middle)) (second : Appends middle result) :
    Appends program result where
  size_le := Nat.le_trans first.size_le second.size_le
  kept place inside := by
    rw [second.kept place (Nat.lt_of_lt_of_le inside first.size_le), first.kept place inside]
  entry_pos := second.entry_pos
  entry_lt := second.entry_lt
  inner place instruction beyond at_place := by
    by_cases before : place < middle.size
    · rw [second.kept place before] at at_place
      exact (first.inner place instruction beyond at_place).mono second.size_le
    · exact second.inner place instruction (Nat.le_of_not_lt before) at_place

theorem emit {instruction : Instruction} (nonempty : 0 < program.size)
    (inner : instruction.IsInner program.size) : Appends program (program.emit instruction) where
  size_le := by simp [Program.emit]
  kept place inside := by simp [Program.emit, Array.getElem?_push, Nat.ne_of_lt inside]
  entry_pos := nonempty
  entry_lt := by simp [Program.emit]
  inner place other beyond at_place := by
    have same : other = instruction := by
      simp only [Program.emit, Array.getElem?_push] at at_place
      split at at_place
      · exact (Option.some_inj.mp at_place).symm
      · rw [Array.getElem?_eq_none beyond] at at_place
        cases at_place
    rw [same]
    exact inner.mono (by simp [Program.emit])

theorem withEntry (appends : Appends program (entry, middle)) (positive : 0 < next)
    (inside : next < middle.size) : Appends program (next, middle) :=
  { appends with entry_pos := positive, entry_lt := inside }

/-- An instruction takes the place that was left for it. -/
theorem place {instruction : Instruction}
    (appends : Appends (program.emit .accept).2 (entry, middle))
    (inner : instruction.IsInner middle.size) :
    Appends program (entry, middle.setIfInBounds program.size instruction) where
  size_le := by
    have size_le := appends.size_le
    simp only [Program.emit, Array.size_push, Array.size_setIfInBounds] at size_le ⊢
    omega
  kept place inside := by
    have kept := appends.kept place (by simp only [Program.emit, Array.size_push]; omega)
    simp only [Array.getElem?_setIfInBounds, Nat.ne_of_gt inside, if_false, kept]
    simp [Program.emit, Array.getElem?_push, Nat.ne_of_lt inside]
  entry_pos := appends.entry_pos
  entry_lt := by simpa using appends.entry_lt
  inner place other beyond at_place := by
    rw [Array.size_setIfInBounds]
    rw [Array.getElem?_setIfInBounds] at at_place
    split at at_place
    · split at at_place
      · rwa [← Option.some_inj.mp at_place]
      · cases at_place
    · refine appends.inner place other ?_ at_place
      simp only [Program.emit, Array.size_push]
      omega

end Appends

/-- A way to append instructions that go on at a given place. -/
def IsPart (part : Nat → Program → Nat × Program) : Prop :=
  ∀ {next : Nat} {program : Program}, 0 < next → next < program.size →
    Appends program (part next program)

theorem isInner_branch {size first second : Nat} (first_pos : 0 < first) (first_lt : first < size)
    (second_pos : 0 < second) (second_lt : second < size) :
    (Instruction.branch first second).IsInner size where
  targets target member := by
    simp only [Instruction.targets, List.mem_cons, List.not_mem_nil, or_false] at member
    omega
  slots := nofun
  goes_on := nofun

theorem isInner_of_targets_singleton {size : Nat} {instruction : Instruction}
    (targets : instruction.targets = [next]) (positive : 0 < next) (inside : next < size)
    (slots : ∀ slot next, instruction = .save slot next → 2 ≤ slot) :
    instruction.IsInner size where
  targets target member := by
    rw [targets, List.mem_singleton] at member
    omega
  slots := slots
  goes_on := by
    rintro rfl
    cases targets

variable {part : Nat → Program → Nat × Program}

theorem appends_emitChoice {onward other : Nat} (greedy : Bool) (onward_pos : 0 < onward)
    (onward_lt : onward < program.size) (other_pos : 0 < other) (other_lt : other < program.size) :
    Appends program (program.emitChoice greedy onward other) := by
  refine .emit (Nat.zero_lt_of_lt onward_lt) ?_
  cases greedy with
  | true => exact isInner_branch onward_pos onward_lt other_pos other_lt
  | false => exact isInner_branch other_pos other_lt onward_pos onward_lt

@[simp] theorem Program.size_placeChoice (program : Program) (number : Nat) (greedy : Bool)
    (onward other : Nat) : (program.placeChoice number greedy onward other).size = program.size :=
  Array.size_setIfInBounds

/-- A choice takes the place that was left for it. -/
theorem Appends.placeChoice {entry : Nat} (greedy : Bool)
    (appends : Appends (program.emit .accept).2 (entry, middle)) (positive : 0 < next)
    (inside : next < program.size) :
    Appends program (entry, middle.placeChoice program.size greedy entry next) := by
  have size_le := appends.size_le
  simp only [Program.emit, Array.size_push] at size_le
  have next_lt : next < middle.size := by omega
  refine appends.place ?_
  cases greedy with
  | true => exact isInner_branch appends.entry_pos appends.entry_lt positive next_lt
  | false => exact isInner_branch positive next_lt appends.entry_pos appends.entry_lt

theorem appends_emitBytes (positive : 0 < next) (inside : next < program.size) (bytes : Bytes) :
    Appends program (program.emitBytes next bytes) := by
  induction bytes generalizing program next with
  | nil => exact .none positive inside
  | cons b bytes ih =>
    have first : Appends program (program.emit (.exactly b next)) :=
      .emit (Nat.zero_lt_of_lt inside)
        (isInner_of_targets_singleton rfl positive inside nofun)
    exact first.trans (ih first.entry_pos first.entry_lt)

theorem appends_emitTimes (isPart : IsPart part) (positive : 0 < next)
    (inside : next < program.size) (count : Nat) :
    Appends program (Program.emitTimes part next program count) := by
  induction count generalizing program next with
  | zero => exact .none positive inside
  | succ count ih =>
    have first := isPart positive inside
    exact first.trans (ih first.entry_pos first.entry_lt)

theorem appends_emitUpTo {inner : Nat} (isPart : IsPart part) (greedy : Bool) (positive : 0 < next)
    (inside : next < program.size) (inner_pos : 0 < inner) (inner_lt : inner < program.size)
    (count : Nat) : Appends program (Program.emitUpTo part greedy next inner program count) := by
  induction count generalizing program inner with
  | zero => exact .none inner_pos inner_lt
  | succ count ih =>
    have first := isPart inner_pos inner_lt
    have next_lt := Nat.lt_of_lt_of_le inside first.size_le
    have second := appends_emitChoice greedy first.entry_pos first.entry_lt positive next_lt
    have later := Nat.lt_of_lt_of_le next_lt second.size_le
    exact first.trans (second.trans (ih later second.entry_pos second.entry_lt))

/-- The instructions of an expression are appended. -/
theorem appends_assemble {expr : Expr} (numbered : expr.IsNumbered) (positive : 0 < next)
    (inside : next < program.size) : Appends program (expr.assemble next program) := by
  induction expr generalizing next program with
  | empty => exact .none positive inside
  | literal bytes => exact appends_emitBytes positive inside bytes.reverse
  | scalar set | byte set | look kind =>
    exact .emit (Nat.zero_lt_of_lt inside)
      (isInner_of_targets_singleton rfl positive inside nofun)
  | seq first second firstIh secondIh =>
    have last := secondIh numbered.2 positive inside
    exact last.trans (firstIh numbered.1 last.entry_pos last.entry_lt)
  | alt first second firstIh secondIh =>
    have second := secondIh numbered.2 positive inside
    have first := firstIh numbered.1 positive (Nat.lt_of_lt_of_le inside second.size_le)
    have second_lt := Nat.lt_of_lt_of_le second.entry_lt first.size_le
    refine second.trans (first.trans (.emit (Nat.zero_lt_of_lt first.entry_lt) ?_))
    exact isInner_branch first.entry_pos first.entry_lt second.entry_pos second_lt
  | rep least most greedy part ih =>
    have isPart : IsPart fun next program => part.assemble next program := ih numbered
    cases most with
    | some most =>
      have optional := appends_emitUpTo isPart greedy positive inside positive inside (most - least)
      exact optional.trans (appends_emitTimes isPart optional.entry_pos optional.entry_lt least)
    | none =>
      have nonempty := Nat.zero_lt_of_lt inside
      have inner : Appends (program.emit .accept).2
          (part.assemble program.size (program.emit .accept).2) :=
        ih numbered nonempty (by simp [Program.emit])
      have loop_lt : program.size < _ := Nat.lt_of_lt_of_le (by simp [Program.emit]) inner.size_le
      have loop := inner.placeChoice greedy positive inside
      cases least with
      | zero =>
        simp only [Expr.assemble]
        split
        · exact loop.withEntry nonempty (by rwa [Program.size_placeChoice])
        · exact loop.trans (appends_emitChoice greedy loop.entry_pos loop.entry_lt positive
            (Nat.lt_of_lt_of_le inside loop.size_le))
      | succ more => exact loop.trans (appends_emitTimes isPart loop.entry_pos loop.entry_lt more)
  | capture index part ih =>
    have close : Appends program (program.emit (.save (2 * index + 1) next)) := by
      refine .emit (Nat.zero_lt_of_lt inside)
        (isInner_of_targets_singleton rfl positive inside ?_)
      rintro slot next same
      cases same
      have := numbered.1
      omega
    have inner := ih numbered.2 close.entry_pos close.entry_lt
    refine close.trans (inner.trans (.emit (Nat.zero_lt_of_lt inner.entry_lt) ?_))
    refine isInner_of_targets_singleton rfl inner.entry_pos inner.entry_lt ?_
    rintro slot next same
    cases same
    have := numbered.1
    omega

/-! ## The program of an expression -/

/-- A program that is searched from an entry.  Only there is slot zero noted, only the instruction
before the end notes slot one, and nothing leads back to the entry. -/
structure IsSearchable (program : Program) (entry : Nat) : Prop where
  accepts : program[0]? = some .accept
  stops : program[1]? = some (.save 1 0)
  starts : ∃ next, program[entry]? = some (.save 0 next) ∧ 0 < next ∧ next < entry
  inner : ∀ place instruction, 2 ≤ place → place ≠ entry → program[place]? = some instruction →
    instruction.IsInner entry

theorem Expr.isSearchable_program {expr : Expr} (numbered : expr.IsNumbered) :
    IsSearchable expr.program.2 expr.program.1 := by
  let bottom : Program := #[.accept, .save 1 0]
  have appends : Appends bottom (expr.assemble 1 bottom) :=
    appends_assemble numbered Nat.zero_lt_one Nat.one_lt_two
  have program_eq : expr.program =
      (expr.assemble 1 bottom).2.emit (.save 0 (expr.assemble 1 bottom).1) := rfl
  have size_le : 2 ≤ (expr.assemble 1 bottom).2.size := appends.size_le
  have kept (place : Nat) (inside : place < 2) : expr.program.2[place]? = bottom[place]? := by
    have before : place ≠ (expr.assemble 1 bottom).2.size := by omega
    rw [program_eq, Program.emit, Array.getElem?_push, if_neg before, appends.kept place inside]
  rw [program_eq] at kept ⊢
  constructor
  · exact kept 0 Nat.zero_lt_two
  · exact kept 1 Nat.one_lt_two
  · refine ⟨_, ?_, appends.entry_pos, appends.entry_lt⟩
    simp [Program.emit]
  · intro place instruction beyond other at_place
    have before : place ≠ (expr.assemble 1 bottom).2.size := other
    rw [Program.emit, Array.getElem?_push, if_neg before] at at_place
    exact appends.inner place instruction beyond at_place

variable {content : Array UInt8} {entry start slotCount place position later slot : Nat}
  {slots : Slots} {instruction : Instruction}

namespace IsSearchable

theorem two_le_entry (searchable : IsSearchable program entry) : 2 ≤ entry := by
  obtain ⟨next, -, positive, less⟩ := searchable.starts
  omega

/-- The instructions of the program by place. -/
theorem cases (searchable : IsSearchable program entry)
    (at_place : program[place]? = some instruction) :
    (place = 0 ∧ instruction = .accept) ∨ (place = 1 ∧ instruction = .save 1 0) ∨
      (place = entry ∧ ∃ next, instruction = .save 0 next ∧ 0 < next ∧ next < entry) ∨
        place ≠ entry ∧ instruction.IsInner entry := by
  by_cases first : place = 0
  · rw [first, searchable.accepts] at at_place
    exact .inl ⟨first, (Option.some_inj.mp at_place).symm⟩
  · by_cases second : place = 1
    · rw [second, searchable.stops] at at_place
      exact .inr (.inl ⟨second, (Option.some_inj.mp at_place).symm⟩)
    · by_cases last : place = entry
      · obtain ⟨next, starts, bounds⟩ := searchable.starts
        rw [last, starts] at at_place
        exact .inr (.inr (.inl ⟨last, next, (Option.some_inj.mp at_place).symm, bounds⟩))
      · exact .inr (.inr (.inr ⟨last, searchable.inner place instruction (by omega) last at_place⟩))

/-- What is noted on the way of a search: in slot zero when it starts and in slot one before a match
ends. -/
theorem of_save (searchable : IsSearchable program entry)
    (at_place : program[place]? = some (.save slot next)) :
    next < entry ∧ (slot = 0 ↔ place = entry) ∧ (next = 0 → slot = 1) := by
  have two_le := searchable.two_le_entry
  rcases searchable.cases at_place with ⟨-, same⟩ | ⟨rfl, same⟩ | ⟨rfl, other, same, bounds⟩ |
    ⟨inside, inner⟩
  · cases same
  · cases same
    omega
  · cases same
    omega
  · have target := inner.targets next List.mem_cons_self
    have large := inner.slots slot next rfl
    omega

/-- An instruction that notes nothing is not the entry, and it leads neither there nor to the end of
a match. -/
theorem of_not_save (searchable : IsSearchable program entry)
    (at_place : program[place]? = some instruction) (target : next ∈ instruction.targets)
    (not_save : ∀ slot other, instruction ≠ .save slot other) :
    place ≠ entry ∧ 0 < next ∧ next < entry := by
  rcases searchable.cases at_place with ⟨-, rfl⟩ | ⟨-, same⟩ | ⟨-, other, same, -⟩ | ⟨inside, inner⟩
  · cases target
  · exact absurd same (not_save _ _)
  · exact absurd same (not_save _ _)
  · exact ⟨inside, inner.targets next target⟩

/-- A match ends at place zero only. -/
theorem eq_zero_of_accept (searchable : IsSearchable program entry)
    (at_place : program[place]? = some .accept) : place = 0 := by
  rcases searchable.cases at_place with ⟨first, -⟩ | ⟨-, same⟩ | ⟨-, other, same, -⟩ | ⟨-, inner⟩
  · exact first
  · cases same
  · cases same
  · exact absurd rfl inner.goes_on

end IsSearchable

/-! ## Ways through the program of an expression -/

/-- What leads on without reading notes a position or nothing. -/
theorem exists_of_mem_silent {noted : Slots} {successors : List (Nat × Slots)}
    (goes : silent program content position place slots = some successors)
    (member : (next, noted) ∈ successors) :
    (∃ instruction, program[place]? = some instruction ∧ next ∈ instruction.targets ∧
      (∀ slot other, instruction ≠ .save slot other) ∧ noted = slots) ∨
    ∃ slot, program[place]? = some (.save slot next) ∧
      noted = slots.setIfInBounds slot (some position) := by
  unfold silent at goes
  split at goes
  · cases goes
    cases member
  · rename_i kind other at_place
    cases goes
    split at member
    · cases List.mem_singleton.mp member
      exact .inl ⟨_, at_place, List.mem_cons_self, nofun, rfl⟩
    · cases member
  · rename_i slot other at_place
    cases goes
    cases List.mem_singleton.mp member
    exact .inr ⟨slot, at_place, rfl⟩
  · rename_i first second at_place
    cases goes
    refine .inl ⟨_, at_place, ?_, nofun, ?_⟩
    · rcases List.mem_pair.mp member with same | same <;> cases same <;> simp [Instruction.targets]
    · rcases List.mem_pair.mp member with same | same <;> cases same <;> rfl
  · cases goes

theorem exists_of_reads {length : Nat}
    (read : reads program content position place = some (next, length)) :
    ∃ instruction, program[place]? = some instruction ∧ next ∈ instruction.targets ∧
      ∀ slot other, instruction ≠ .save slot other := by
  unfold reads at read
  split at read
  · rename_i at_place
    refine ⟨_, at_place, ?_, nofun⟩
    split at read <;> cases read
    exact List.mem_cons_self
  · rename_i at_place
    refine ⟨_, at_place, ?_, nofun⟩
    split at read <;> cases read
    exact List.mem_cons_self
  · rename_i at_place
    refine ⟨_, at_place, ?_, nofun⟩
    split at read
    · split at read <;> cases read
      exact List.mem_cons_self
    · cases read
  · cases read

/-- What is known on the way of a search through a program: slot zero holds where the search starts,
slot one where the whole match stops, and nothing outside is noted. -/
structure IsNoted (entry start slotCount place position : Nat) (slots : Slots) : Prop where
  size_eq : slots.size = slotCount
  start_le : start ≤ position
  between : ∀ slot noted : Nat, slots[slot]? = some (some noted) → start ≤ noted ∧ noted ≤ position
  started : place ≠ entry → slots[0]? = some (some start)
  stopped : place = 0 → slots[1]? = some (some position)
  entered : place = entry → position = start

namespace IsNoted

theorem initial (positive : 0 < entry) :
    IsNoted entry start slotCount entry start (Array.replicate slotCount none) where
  size_eq := Array.size_replicate
  start_le := Nat.le_refl start
  between slot noted at_slot := by simp [Array.getElem?_replicate] at at_slot
  started other := absurd rfl other
  stopped at_end := absurd at_end (Nat.ne_of_gt positive)
  entered _ := rfl

/-- Nothing is noted. -/
theorem keep (isNoted : IsNoted entry start slotCount place position slots)
    (further : position ≤ later) (inside : place ≠ entry) (next_pos : 0 < next)
    (next_lt : next < entry) : IsNoted entry start slotCount next later slots where
  size_eq := isNoted.size_eq
  start_le := Nat.le_trans isNoted.start_le further
  between slot noted at_slot := by
    have bounds := isNoted.between slot noted at_slot
    omega
  started _ := isNoted.started inside
  stopped at_end := absurd at_end (Nat.ne_of_gt next_pos)
  entered at_entry := absurd at_entry (Nat.ne_of_lt next_lt)

/-- A position is noted. -/
theorem save (isNoted : IsNoted entry start slotCount place position slots)
    (enough : 2 ≤ slotCount) (next_lt : next < entry) (starts : slot = 0 ↔ place = entry)
    (stops : next = 0 → slot = 1) :
    IsNoted entry start slotCount next position (slots.setIfInBounds slot (some position)) where
  size_eq := by rw [Array.size_setIfInBounds, isNoted.size_eq]
  start_le := isNoted.start_le
  between other noted at_slot := by
    rw [Array.getElem?_setIfInBounds] at at_slot
    split at at_slot
    · split at at_slot
      · cases at_slot
        exact ⟨isNoted.start_le, Nat.le_refl _⟩
      · cases at_slot
    · exact isNoted.between other noted at_slot
  started _ := by
    have nonempty : 0 < slots.size := by
      rw [isNoted.size_eq]
      omega
    by_cases first : slot = 0
    · rw [first, Array.getElem?_setIfInBounds_self_of_lt nonempty,
        isNoted.entered (starts.mp first)]
    · rw [Array.getElem?_setIfInBounds_ne first]
      exact isNoted.started fun at_entry => first (starts.mpr at_entry)
  stopped at_end := by
    have nonempty : 1 < slots.size := by
      rw [isNoted.size_eq]
      omega
    rw [stops at_end, Array.getElem?_setIfInBounds_self_of_lt nonempty]
  entered at_entry := absurd at_entry (Nat.ne_of_lt next_lt)

end IsNoted

theorem IsSearchable.isNoted (searchable : IsSearchable program entry) (enough : 2 ≤ slotCount)
    (reaches : Reaches program content entry start (Array.replicate slotCount none) place position
      slots) : IsNoted entry start slotCount place position slots := by
  induction reaches with
  | start => exact .initial (Nat.zero_lt_of_lt searchable.two_le_entry)
  | silent before goes member ih =>
    rcases exists_of_mem_silent goes member with
      ⟨instruction, at_place, target, not_save, rfl⟩ | ⟨slot, at_place, rfl⟩
    · obtain ⟨inside, next_pos, next_lt⟩ := searchable.of_not_save at_place target not_save
      exact ih.keep (Nat.le_refl _) inside next_pos next_lt
    · obtain ⟨next_lt, starts, stops⟩ := searchable.of_save at_place
      exact ih.save enough next_lt starts stops
  | reads before read ih =>
    obtain ⟨instruction, at_place, target, not_save⟩ := exists_of_reads read
    obtain ⟨inside, next_pos, next_lt⟩ := searchable.of_not_save at_place target not_save
    exact ih.keep (Nat.le_add_right _ _) inside next_pos next_lt

/-- What a search finds has been noted on a way from where the match starts to where it stops, at or
after the position the search starts from.  From any position up to the match it finds the same. -/
theorem IsSearchable.exists_reaches_of_search (searchable : IsSearchable program entry)
    (found : program.search entry slotCount content position = some slots) :
    ∃ start stop, position ≤ start ∧ stop ≤ content.size ∧
      Reaches program content entry start (Array.replicate slotCount none) 0 stop slots ∧
      ∀ between, position ≤ between → between ≤ start →
        program.search entry slotCount content between = some slots := by
  obtain ⟨start, later, lives, same⟩ := Program.exists_lives_of_search_eq_some found
  obtain ⟨place, stop, others, again, accepts, inside, reaches⟩ :=
    Program.exists_search_eq_some lives slotCount
  cases (same start later (Nat.le_refl start)).symm.trans again
  cases searchable.eq_zero_of_accept accepts
  exact ⟨start, stop, later, inside, reaches, same⟩

/-- At the end of a match the two ends of it are noted, and nothing outside. -/
theorem IsSearchable.ends_of_reaches (searchable : IsSearchable program entry)
    (enough : 2 ≤ slotCount)
    (reaches : Reaches program content entry start (Array.replicate slotCount none) 0 position
      slots) :
    slots[0]? = some (some start) ∧ slots[1]? = some (some position) ∧
      ∀ slot noted : Nat, slots[slot]? = some (some noted) → start ≤ noted ∧ noted ≤ position := by
  have isNoted := searchable.isNoted enough reaches
  have different : 0 ≠ entry := by
    have two_le := searchable.two_le_entry
    omega
  exact ⟨isNoted.started different, isNoted.stopped rfl, isNoted.between⟩

end Emend.Pattern
