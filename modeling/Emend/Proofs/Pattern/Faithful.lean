/-
# Programs match what their expressions do

Every way through the program of an expression, from its entry to the end of a match, comes to where
the expression goes on with a match of the expression behind it; and for each match there is such a
way.  So a search finds what the expression matches, and notes its groups.
-/

import Emend.Proofs.Pattern.Matching

namespace Emend.Pattern

variable {program middle whole : Program} {content : Array UInt8} {final slots : Slots}
  {next place position stop steps : Nat}

/-! ## Ways to the end of a match -/

/-- A search leads from a place to the end of a match in so many steps; the match ends at `stop` and
`final` is noted then. -/
inductive Leads (program : Program) (content : Array UInt8) (stop : Nat) (final : Slots) :
    (steps place position : Nat) → Slots → Prop where
  | accept {place : Nat} (accepts : program[place]? = some .accept) :
      Leads program content stop final 0 place stop final
  | silent {steps place position next : Nat} {slots noted : Slots} {successors : List (Nat × Slots)}
      (goes : silent program content position place slots = some successors)
      (member : (next, noted) ∈ successors)
      (onward : Leads program content stop final steps next position noted) :
      Leads program content stop final (steps + 1) place position slots
  | reads {steps place position next length : Nat} {slots : Slots}
      (read : reads program content position place = some (next, length))
      (onward : Leads program content stop final steps next (position + length) slots) :
      Leads program content stop final (steps + 1) place position slots

/-- A way that comes to a place leads on as that place does. -/
theorem Reaches.exists_leads {entry start : Nat} {initial : Slots}
    (reaches : Reaches program content entry start initial place position slots)
    (onward : Leads program content stop final steps place position slots) :
    ∃ steps, Leads program content stop final steps entry start initial := by
  induction reaches generalizing steps with
  | start => exact ⟨steps, onward⟩
  | silent _ goes member ih => exact ih (.silent goes member onward)
  | reads _ read ih => exact ih (.reads read onward)

namespace Leads

theorem of_accept (leads : Leads whole content stop final steps place position slots)
    (at_place : whole[place]? = some .accept) : position = stop ∧ slots = final := by
  cases leads with
  | accept => exact ⟨rfl, rfl⟩
  | silent goes => simp [Pattern.silent, at_place] at goes
  | reads read => simp [Pattern.reads, at_place] at read

theorem of_save {slot : Nat} (leads : Leads whole content stop final steps place position slots)
    (at_place : whole[place]? = some (.save slot next)) :
    ∃ rest < steps, Leads whole content stop final rest next position
      (slots.setIfInBounds slot (some position)) := by
  cases leads with
  | accept accepts => simp [at_place] at accepts
  | silent goes member onward =>
    simp only [Pattern.silent, at_place, Option.some.injEq] at goes
    subst goes
    cases List.mem_singleton.mp member
    exact ⟨_, Nat.lt_succ_self _, onward⟩
  | reads read => simp [Pattern.reads, at_place] at read

theorem of_look {kind : Look} (leads : Leads whole content stop final steps place position slots)
    (at_place : whole[place]? = some (.look kind next)) :
    kind.holds content position = true ∧
      ∃ rest < steps, Leads whole content stop final rest next position slots := by
  cases leads with
  | accept accepts => simp [at_place] at accepts
  | silent goes member onward =>
    simp only [Pattern.silent, at_place, Option.some.injEq] at goes
    subst goes
    split at member
    · rename_i holds
      cases List.mem_singleton.mp member
      exact ⟨holds, _, Nat.lt_succ_self _, onward⟩
    · cases member
  | reads read => simp [Pattern.reads, at_place] at read

theorem of_branch {first second : Nat}
    (leads : Leads whole content stop final steps place position slots)
    (at_place : whole[place]? = some (.branch first second)) :
    ∃ rest < steps, Leads whole content stop final rest first position slots ∨
      Leads whole content stop final rest second position slots := by
  cases leads with
  | accept accepts => simp [at_place] at accepts
  | silent goes member onward =>
    simp only [Pattern.silent, at_place, Option.some.injEq] at goes
    subst goes
    refine ⟨_, Nat.lt_succ_self _, ?_⟩
    rcases List.mem_pair.mp member with same | same
    · cases same
      exact .inl onward
    · cases same
      exact .inr onward
  | reads read => simp [Pattern.reads, at_place] at read

theorem of_exactly {value : UInt8}
    (leads : Leads whole content stop final steps place position slots)
    (at_place : whole[place]? = some (.exactly value next)) :
    content[position]? = some value ∧
      ∃ rest < steps, Leads whole content stop final rest next (position + 1) slots := by
  cases leads with
  | accept accepts => simp [at_place] at accepts
  | silent goes => simp [Pattern.silent, at_place] at goes
  | reads read onward =>
    simp only [Pattern.reads, at_place] at read
    split at read
    · rename_i here
      cases read
      exact ⟨here, _, Nat.lt_succ_self _, onward⟩
    · cases read

theorem of_byte {set : Unicode.Ranges}
    (leads : Leads whole content stop final steps place position slots)
    (at_place : whole[place]? = some (.byte set next)) :
    (∃ b, content[position]? = some b ∧ set.contains b.toNat = true) ∧
      ∃ rest < steps, Leads whole content stop final rest next (position + 1) slots := by
  cases leads with
  | accept accepts => simp [at_place] at accepts
  | silent goes => simp [Pattern.silent, at_place] at goes
  | reads read onward =>
    simp only [Pattern.reads, at_place] at read
    split at read
    · rename_i member
      cases read
      exact ⟨(Option.any_eq_true _ _).mp member, _, Nat.lt_succ_self _, onward⟩
    · cases read

theorem of_scalar {set : Unicode.Ranges}
    (leads : Leads whole content stop final steps place position slots)
    (at_place : whole[place]? = some (.scalar set next)) :
    ∃ c length, Utf8.scalarAt? content position = some (c, length) ∧
      set.contains c.toNat = true ∧
      ∃ rest < steps, Leads whole content stop final rest next (position + length) slots := by
  cases leads with
  | accept accepts => simp [at_place] at accepts
  | silent goes => simp [Pattern.silent, at_place] at goes
  | reads read onward =>
    simp only [Pattern.reads, at_place] at read
    split at read
    · rename_i c length scalar
      split at read
      · rename_i member
        cases read
        exact ⟨c, _, scalar, member, _, Nat.lt_succ_self _, onward⟩
      · cases read
    · cases read

end Leads

namespace Lives

theorem of_branch {first second : Nat} (at_place : whole[place]? = some (.branch first second))
    (onward : Lives whole content first position ∨ Lives whole content second position) :
    Lives whole content place position := by
  have goes : Pattern.silent whole content position place #[] =
      some [(first, #[]), (second, #[])] := by
    simp [Pattern.silent, at_place]
  rcases onward with onward | onward
  · exact .silent goes List.mem_cons_self onward
  · exact .silent goes (List.mem_cons_of_mem _ List.mem_cons_self) onward

theorem of_save {slot : Nat} (at_place : whole[place]? = some (.save slot next))
    (onward : Lives whole content next position) : Lives whole content place position := by
  have goes : Pattern.silent whole content position place #[] = some [(next, #[])] := by
    simp [Pattern.silent, at_place]
  exact .silent goes List.mem_cons_self onward

end Lives

/-! ## Parts of a program -/

/-- The instructions from a number on that have been appended are in a program. -/
def Holds (whole : Program) (size : Nat) (appended : Program) : Prop :=
  ∀ place, size ≤ place → place < appended.size → whole[place]? = appended[place]?

theorem Holds.later {size larger : Nat} (holds : Holds whole size program) (le : size ≤ larger) :
    Holds whole larger program :=
  fun place beyond inside => holds place (Nat.le_trans le beyond) inside

theorem Holds.earlier {size : Nat} {result : Nat × Program} (holds : Holds whole size result.2)
    (appends : Appends program result) : Holds whole size program := by
  intro place beyond inside
  rw [holds place beyond (Nat.lt_of_lt_of_le inside appends.size_le), appends.kept place inside]

theorem Holds.emit {instruction : Instruction}
    (holds : Holds whole program.size (program.emit instruction).2) :
    whole[program.size]? = some instruction := by
  rw [holds program.size (Nat.le_refl _) (by simp [Program.emit])]
  simp [Program.emit]

/-- A way comes to a place after some matches. -/
def Passes (whole : Program) (content : Array UInt8) (stop : Nat) (final : Slots)
    (once : Nat → Nat → List Noted → Prop) (steps next position : Nat) (slots : Slots) : Prop :=
  ∃ middle noted after rest, rest ≤ steps ∧ once position middle noted ∧
    Records slots noted after ∧ Leads whole content stop final rest next middle after

/-- A way to append instructions that match what is said, and go on at a given place. -/
structure IsFaithful (content : Array UInt8) (part : Nat → Program → Nat × Program)
    (once : Nat → Nat → List Noted → Prop) : Prop where
  appends : IsPart part
  sound : ∀ {next program whole stop final steps position slots}, 0 < next → next < program.size →
    Holds whole program.size (part next program).2 →
    Leads whole content stop final steps (part next program).1 position slots →
    Passes whole content stop final once steps next position slots
  complete : ∀ {next program whole position middle noted}, 0 < next → next < program.size →
    Holds whole program.size (part next program).2 → once position middle noted →
    Lives whole content next middle → Lives whole content (part next program).1 position

variable {once : Nat → Nat → List Noted → Prop} {part : Nat → Program → Nat × Program}

namespace Passes

theorem here (leads : Leads whole content stop final steps next position slots) :
    Passes whole content stop final (Repeats once 0) steps next position slots :=
  ⟨position, [], slots, steps, Nat.le_refl _, .none, .refl slots, leads⟩

/-- Matches that come one after the other. -/
theorem andThen {first second both : Nat → Nat → List Noted → Prop} {entry : Nat}
    (passes : Passes whole content stop final first steps entry position slots)
    (onward : ∀ {rest middle after}, rest ≤ steps →
      Leads whole content stop final rest entry middle after →
      Passes whole content stop final second rest next middle after)
    (join : ∀ {start middle stop before after}, first start middle before →
      second middle stop after → both start stop (before ++ after)) :
    Passes whole content stop final both steps next position slots := by
  obtain ⟨middle, noted, between, rest, fewer, firstMatch, records, leads⟩ := passes
  obtain ⟨last, others, after, left, fewest, secondMatch, moreRecords, leads⟩ := onward fewer leads
  exact ⟨last, noted ++ others, after, left, Nat.le_trans fewest fewer,
    join firstMatch secondMatch, records.trans moreRecords, leads⟩

theorem mono {other : Nat → Nat → List Noted → Prop} {fewer : Nat}
    (passes : Passes whole content stop final once fewer next position slots)
    (le : fewer ≤ steps) (weaker : ∀ {start stop noted}, once start stop noted →
      other start stop noted) :
    Passes whole content stop final other steps next position slots := by
  obtain ⟨middle, noted, after, rest, less, match_, records, leads⟩ := passes
  exact ⟨middle, noted, after, rest, Nat.le_trans less le, weaker match_, records, leads⟩

end Passes

/-! ## Texts -/

theorem prefix_concat {bytes rest : Bytes} {b : UInt8} (isPrefix : bytes <+: rest)
    (next : rest[bytes.length]? = some b) : bytes ++ [b] <+: rest := by
  obtain ⟨others, rfl⟩ := isPrefix
  rw [List.getElem?_append_right (Nat.le_refl _), Nat.sub_self] at next
  cases others with
  | nil => cases next
  | cons c others =>
    cases next
    exact ⟨others, by simp⟩

theorem getElem?_of_prefix_concat {bytes rest : Bytes} {b : UInt8}
    (isPrefix : bytes ++ [b] <+: rest) : rest[bytes.length]? = some b := by
  obtain ⟨others, rfl⟩ := isPrefix
  simp

/-- The bytes of a literal, given from the last, are read before what comes after them. -/
theorem passes_emitBytes {reversed : Bytes} (positive : 0 < next) (inside : next < program.size)
    (holds : Holds whole program.size (program.emitBytes next reversed).2)
    (leads : Leads whole content stop final steps (program.emitBytes next reversed).1 position
      slots) :
    reversed.reverse <+: content.toList.drop position ∧
      ∃ rest ≤ steps, Leads whole content stop final rest next (position + reversed.length)
        slots := by
  induction reversed generalizing next program with
  | nil => exact ⟨List.nil_prefix, steps, Nat.le_refl _, leads⟩
  | cons b before ih =>
    have emits : Appends program (program.emit (.exactly b next)) :=
      .emit (Nat.zero_lt_of_lt inside) (isInner_of_targets_singleton rfl positive inside nofun)
    have others := appends_emitBytes emits.entry_pos emits.entry_lt before
    obtain ⟨isPrefix, rest, fewer, leads⟩ :=
      ih emits.entry_pos emits.entry_lt (holds.later emits.size_le) leads
    have at_place := (holds.earlier others).emit
    obtain ⟨here, last, less, leads⟩ := leads.of_exactly at_place
    refine ⟨?_, last, by omega, leads⟩
    rw [List.reverse_cons]
    apply prefix_concat isPrefix
    rw [List.getElem?_drop, List.length_reverse]
    simpa using here

theorem lives_emitBytes {reversed : Bytes} (positive : 0 < next) (inside : next < program.size)
    (holds : Holds whole program.size (program.emitBytes next reversed).2)
    (isPrefix : reversed.reverse <+: content.toList.drop position)
    (lives : Lives whole content next (position + reversed.length)) :
    Lives whole content (program.emitBytes next reversed).1 position := by
  induction reversed generalizing next program with
  | nil => exact lives
  | cons b before ih =>
    have emits : Appends program (program.emit (.exactly b next)) :=
      .emit (Nat.zero_lt_of_lt inside) (isInner_of_targets_singleton rfl positive inside nofun)
    have others := appends_emitBytes emits.entry_pos emits.entry_lt before
    have at_place := (holds.earlier others).emit
    rw [List.reverse_cons] at isPrefix
    have here := getElem?_of_prefix_concat isPrefix
    rw [List.getElem?_drop, List.length_reverse] at here
    refine ih emits.entry_pos emits.entry_lt (holds.later emits.size_le)
      ((List.prefix_append _ _).trans isPrefix) ?_
    have read : reads whole content (position + before.length) program.size = some (next, 1) := by
      simp [reads, at_place, ← here]
    exact .reads read lives

/-! ## Repetitions -/

/-- A part that is appended so many times. -/
theorem IsFaithful.times (faithful : IsFaithful content part once) (count : Nat) :
    IsFaithful content (fun next program => Program.emitTimes part next program count)
      (Repeats once count) where
  appends positive inside := appends_emitTimes faithful.appends positive inside count
  sound {next program whole stop final steps position slots} positive inside holds leads := by
    induction count generalizing next program with
    | zero => exact .here leads
    | succ count ih =>
      have first := faithful.appends positive inside
      have others := appends_emitTimes faithful.appends first.entry_pos first.entry_lt count
      have passes := ih first.entry_pos first.entry_lt (holds.later first.size_le) leads
      refine passes.andThen (fun _ leads =>
        faithful.sound positive inside (holds.earlier others) leads) ?_
      exact fun repeats match_ => repeats.append (.single match_)
  complete {next program whole position middle noted} positive inside holds repeats lives := by
    induction count generalizing next program middle noted with
    | zero =>
      cases repeats
      exact lives
    | succ count ih =>
      have first := faithful.appends positive inside
      have others := appends_emitTimes faithful.appends first.entry_pos first.entry_lt count
      obtain ⟨between, _, _, earlier, last, -⟩ := repeats.split
      obtain _ | ⟨match_, _ | _⟩ := last
      have onward := faithful.complete positive inside (holds.earlier others) match_ lives
      exact ih first.entry_pos first.entry_lt (holds.later first.size_le) earlier onward

/-- A choice between going on and something else, of which the first is preferred if `greedy`. -/
def choice (greedy : Bool) (onward other : Nat) : Instruction :=
  if greedy then .branch onward other else .branch other onward

theorem Leads.of_choice {greedy : Bool} {onward other : Nat}
    (leads : Leads whole content stop final steps place position slots)
    (at_place : whole[place]? = some (choice greedy onward other)) :
    ∃ rest < steps, Leads whole content stop final rest onward position slots ∨
      Leads whole content stop final rest other position slots := by
  cases greedy with
  | true => exact leads.of_branch at_place
  | false =>
    obtain ⟨rest, less, either⟩ := leads.of_branch at_place
    exact ⟨rest, less, either.symm⟩

theorem Lives.of_choice {greedy : Bool} {onward other : Nat}
    (at_place : whole[place]? = some (choice greedy onward other))
    (either : Lives whole content onward position ∨ Lives whole content other position) :
    Lives whole content place position := by
  cases greedy with
  | true => exact .of_branch at_place either
  | false => exact .of_branch at_place either.symm

section

variable {greedy : Bool} {inner count : Nat}

/-- A part that is appended at most so many times leads to where it goes on after any of them. -/
theorem IsFaithful.passes_emitUpTo (faithful : IsFaithful content part once) (positive : 0 < next)
    (inside : next < program.size) (inner_pos : 0 < inner) (inner_lt : inner < program.size)
    (holds : Holds whole program.size (Program.emitUpTo part greedy next inner program count).2)
    (leads : Leads whole content stop final steps
      (Program.emitUpTo part greedy next inner program count).1 position slots) :
    ∃ target, (target = next ∨ target = inner) ∧ Passes whole content stop final
      (fun start stop noted => ∃ times ≤ count, Repeats once times start stop noted) steps target
      position slots := by
  induction count generalizing inner program with
  | zero =>
    exact ⟨inner, .inr rfl, (Passes.here leads).mono (Nat.le_refl _)
      fun repeats => ⟨0, Nat.le_refl _, repeats⟩⟩
  | succ count ih =>
    have first := faithful.appends inner_pos inner_lt
    have next_lt := Nat.lt_of_lt_of_le inside first.size_le
    have second := appends_emitChoice greedy first.entry_pos first.entry_lt positive next_lt
    have next_lt' := Nat.lt_of_lt_of_le next_lt second.size_le
    have others := appends_emitUpTo faithful.appends greedy positive next_lt' second.entry_pos
      second.entry_lt count
    obtain ⟨target, rfl | rfl, middle, noted, after, rest, fewer, ⟨times, le, repeats⟩, records,
      leads⟩ := ih next_lt' second.entry_pos second.entry_lt
        (holds.later (Nat.le_trans first.size_le second.size_le)) leads
    · exact ⟨_, .inl rfl, middle, noted, after, rest, fewer,
        ⟨times, Nat.le_succ_of_le le, repeats⟩, records, leads⟩
    · -- the last choice, before the part that goes on inside
      have at_choice := ((holds.later first.size_le).earlier others).emit
      obtain ⟨left, less, onward | stops⟩ := leads.of_choice at_choice
      · have holds_first := (holds.earlier others).earlier second
        have passes := faithful.sound inner_pos inner_lt holds_first onward
        obtain ⟨last, more, final', fewest, le', match_, moreRecords, leads⟩ := passes
        exact ⟨inner, .inr rfl, last, noted ++ more, final', fewest, by omega,
          ⟨times + 1, Nat.succ_le_succ le, repeats.append (.single match_)⟩,
          records.trans moreRecords, leads⟩
      · exact ⟨_, .inl rfl, middle, noted, after, left, by omega,
          ⟨times, Nat.le_succ_of_le le, repeats⟩, records, stops⟩

theorem IsFaithful.lives_emitUpTo (faithful : IsFaithful content part once) (positive : 0 < next)
    (inside : next < program.size) (inner_pos : 0 < inner) (inner_lt : inner < program.size)
    (holds : Holds whole program.size (Program.emitUpTo part greedy next inner program count).2)
    {times middle : Nat} {noted : List Noted} (repeats : Repeats once times position middle noted)
    (lives : times < count ∧ Lives whole content next middle ∨
      times = count ∧ Lives whole content inner middle) :
    Lives whole content (Program.emitUpTo part greedy next inner program count).1 position := by
  induction count generalizing inner program times middle noted with
  | zero =>
    obtain ⟨impossible, -⟩ | ⟨rfl, lives⟩ := lives
    · cases impossible
    · cases repeats
      exact lives
  | succ count ih =>
    have first := faithful.appends inner_pos inner_lt
    have next_lt := Nat.lt_of_lt_of_le inside first.size_le
    have second := appends_emitChoice greedy first.entry_pos first.entry_lt positive next_lt
    have next_lt' := Nat.lt_of_lt_of_le next_lt second.size_le
    have others := appends_emitUpTo faithful.appends greedy positive next_lt' second.entry_pos
      second.entry_lt count
    have at_choice := ((holds.later first.size_le).earlier others).emit
    have onward := @ih _ _ next_lt' second.entry_pos second.entry_lt
      (holds.later (Nat.le_trans first.size_le second.size_le))
    obtain ⟨less, lives⟩ | ⟨rfl, lives⟩ := lives
    · refine onward repeats ?_
      rcases Nat.lt_or_eq_of_le (Nat.le_of_lt_succ less) with fewer | same
      · exact .inl ⟨fewer, lives⟩
      · exact .inr ⟨same, .of_choice at_choice (.inr lives)⟩
    · obtain ⟨between, _, _, earlier, last, -⟩ := repeats.split
      obtain _ | ⟨match_, _ | _⟩ := last
      have holds_first := (holds.earlier others).earlier second
      have enters := faithful.complete inner_pos inner_lt holds_first match_ lives
      exact onward earlier (.inr ⟨rfl, .of_choice at_choice (.inl enters)⟩)

end

/-- The choice that has taken the place left for it, and the part before it. -/
theorem Holds.placeChoice {greedy : Bool} {entry : Nat}
    (holds : Holds whole program.size (middle.placeChoice program.size greedy entry next))
    (appends : Appends (program.emit .accept).2 (entry, middle)) :
    whole[program.size]? = some (choice greedy entry next) ∧
      Holds whole (program.emit .accept).2.size middle := by
  have size_eq : (program.emit .accept).2.size = program.size + 1 := Array.size_push ..
  have size_le := appends.size_le
  rw [size_eq] at size_le
  constructor
  · rw [holds program.size (Nat.le_refl _) (by rw [Program.size_placeChoice]; exact size_le)]
    exact Array.getElem?_setIfInBounds_self_of_lt size_le
  · intro place beyond inside
    rw [size_eq] at beyond
    rw [holds place (by omega) (by rwa [Program.size_placeChoice])]
    exact Array.getElem?_setIfInBounds_ne (by omega)

/-- The program of a loop: a choice whether to go into the part, which goes back to the choice. -/
structure IsLoop (whole : Program) (content : Array UInt8) (once : Nat → Nat → List Noted → Prop)
    (greedy : Bool) (loop entry next : Nat) : Prop where
  at_loop : whole[loop]? = some (choice greedy entry next)
  sound : ∀ {stop final steps position slots},
    Leads whole content stop final steps entry position slots →
      Passes whole content stop final once steps loop position slots
  complete : ∀ {position middle noted}, once position middle noted →
    Lives whole content loop middle → Lives whole content entry position

theorem IsFaithful.appends_loop (faithful : IsFaithful content part once) (greedy : Bool)
    (positive : 0 < next) (inside : next < program.size) :
    let inner := part program.size (program.emit .accept).2
    Appends program (inner.1, inner.2.placeChoice program.size greedy inner.1 next) :=
  (faithful.appends (Nat.zero_lt_of_lt inside) (by simp [Program.emit])).placeChoice greedy
    positive inside

theorem IsFaithful.isLoop {greedy : Bool} {inner : Nat × Program}
    (faithful : IsFaithful content part once) (inside : next < program.size)
    (inner_eq : part program.size (program.emit .accept).2 = inner)
    (holds : Holds whole program.size (inner.2.placeChoice program.size greedy inner.1 next)) :
    IsLoop whole content once greedy program.size inner.1 next := by
  subst inner_eq
  have positive := Nat.zero_lt_of_lt inside
  have loop_lt : program.size < (program.emit .accept).2.size := by simp [Program.emit]
  obtain ⟨at_loop, holds_inner⟩ := holds.placeChoice (faithful.appends positive loop_lt)
  exact ⟨at_loop, faithful.sound positive loop_lt holds_inner,
    faithful.complete positive loop_lt holds_inner⟩

namespace IsLoop

variable {greedy : Bool} {loop entry times last : Nat} {noted : List Noted}

/-- The choice leads on after any number of matches. -/
theorem passes (isLoop : IsLoop whole content once greedy loop entry next)
    (leads : Leads whole content stop final steps loop position slots) :
    Passes whole content stop final
      (fun start stop noted => ∃ times, Repeats once times start stop noted) steps next position
      slots := by
  induction steps using Nat.strongRecOn generalizing position slots with
  | _ steps ih =>
    obtain ⟨rest, less, onward | stops⟩ := leads.of_choice isLoop.at_loop
    · obtain ⟨middle, noted, after, left, fewer, match_, records, leads⟩ := isLoop.sound onward
      obtain ⟨last, others, afterAll, fewest, le, ⟨times, repeats⟩, moreRecords, leads⟩ :=
        ih left (by omega) leads
      exact ⟨last, noted ++ others, afterAll, fewest, by omega,
        ⟨times + 1, .more match_ repeats⟩, records.trans moreRecords, leads⟩
    · exact (Passes.here stops).mono (Nat.le_of_lt less) fun repeats => ⟨0, repeats⟩

theorem lives (isLoop : IsLoop whole content once greedy loop entry next)
    (repeats : Repeats once times position last noted) (lives : Lives whole content next last) :
    Lives whole content loop position := by
  induction repeats with
  | none => exact .of_choice isLoop.at_loop (.inr lives)
  | more first rest ih =>
    exact .of_choice isLoop.at_loop (.inl (isLoop.complete first (ih lives)))

/-- The part leads on after one match or more. -/
theorem passes_entry (isLoop : IsLoop whole content once greedy loop entry next)
    (leads : Leads whole content stop final steps entry position slots) :
    Passes whole content stop final
      (fun start stop noted => ∃ times, Repeats once (times + 1) start stop noted) steps next
      position slots := by
  refine (isLoop.sound leads).andThen (fun _ leads => isLoop.passes leads) ?_
  rintro start middle stop noted others first ⟨times, rest⟩
  exact ⟨times, .more first rest⟩

theorem lives_entry (isLoop : IsLoop whole content once greedy loop entry next)
    (repeats : Repeats once (times + 1) position last noted)
    (lives : Lives whole content next last) : Lives whole content entry position := by
  cases repeats with
  | more first rest => exact isLoop.complete first (isLoop.lives rest lives)

end IsLoop

/-! ## Expressions -/

/-- A choice between two parts that have been appended. -/
theorem Appends.emit_branch {first second : Nat × Program} (before : Appends second.2 first)
    (last : Appends program second) :
    Appends first.2 (first.2.emit (.branch first.1 second.1)) :=
  .emit (Nat.zero_lt_of_lt before.entry_lt) (isInner_branch before.entry_pos before.entry_lt
    last.entry_pos (Nat.lt_of_lt_of_le last.entry_lt before.size_le))

section

variable {least index : Nat} {greedy : Bool} {part : Expr}

theorem isFaithful_rep_some {most : Nat} (numbered : part.IsNumbered)
    (faithful : IsFaithful content (fun next program => part.assemble next program)
      (part.Matches content)) :
    IsFaithful content (fun next program => (Expr.rep least (some most) greedy part).assemble next
      program) ((Expr.rep least (some most) greedy part).Matches content) := by
  refine ⟨appends_assemble numbered, ?_, ?_⟩
  · intro next program whole stop final steps position slots positive inside holds leads
    have optional := appends_emitUpTo faithful.appends greedy positive inside positive inside
      (most - least)
    have required := appends_emitTimes faithful.appends optional.entry_pos optional.entry_lt least
    have first := (faithful.times least).sound optional.entry_pos optional.entry_lt
      (holds.later optional.size_le) leads
    have onward {rest middle : Nat} {after : Slots}
        (leads : Leads whole content stop final rest
          (Program.emitUpTo (fun next program => part.assemble next program) greedy next next program
            (most - least)).1 middle after) :
        Passes whole content stop final
          (fun start stop noted => ∃ times ≤ most - least,
            Repeats (part.Matches content) times start stop noted) rest next middle after := by
      obtain ⟨target, rfl | rfl, passes⟩ := faithful.passes_emitUpTo positive inside positive inside
        (holds.earlier required) leads
      · exact passes
      · exact passes
    refine first.andThen (fun _ leads => onward leads) ?_
    rintro start middle stop before after repeats ⟨times, le, others⟩
    refine ⟨least + times, Nat.le_add_right _ _, ?_, repeats.append others⟩
    intro bound same
    cases same
    omega
  · intro next program whole position middle noted positive inside holds matches_ lives
    obtain ⟨count, enough, bounded, repeats⟩ := matches_
    have few := bounded most rfl
    obtain ⟨times, rfl⟩ := Nat.exists_eq_add_of_le enough
    obtain ⟨between, _, _, first, others, -⟩ := repeats.split
    have optional := appends_emitUpTo faithful.appends greedy positive inside positive inside
      (most - least)
    have required := appends_emitTimes faithful.appends optional.entry_pos optional.entry_lt least
    have stops : times < most - least ∧ Lives whole content next middle ∨
        times = most - least ∧ Lives whole content next middle := by
      rcases Nat.lt_or_eq_of_le (show times ≤ most - least by omega) with fewer | same
      · exact .inl ⟨fewer, lives⟩
      · exact .inr ⟨same, lives⟩
    have onward := faithful.lives_emitUpTo positive inside positive inside (holds.earlier required)
      others stops
    exact (faithful.times least).complete optional.entry_pos optional.entry_lt
      (holds.later optional.size_le) first onward

/-- A loop that may be passed over. -/
theorem isFaithful_rep_zero (numbered : part.IsNumbered)
    (faithful : IsFaithful content (fun next program => part.assemble next program)
      (part.Matches content)) :
    IsFaithful content (fun next program => (Expr.rep 0 none greedy part).assemble next program)
      ((Expr.rep 0 none greedy part).Matches content) := by
  have anyTimes {times start stop : Nat} {noted : List Noted}
      (repeats : Repeats (part.Matches content) times start stop noted) :
      (Expr.rep 0 none greedy part).Matches content start stop noted :=
    ⟨times, Nat.zero_le _, nofun, repeats⟩
  refine ⟨appends_assemble numbered, ?_, ?_⟩
  · intro next program whole stop final steps position slots positive inside holds leads
    have loop := faithful.appends_loop greedy positive inside
    simp only [Expr.assemble] at holds leads
    split at holds
    · rename_i solid
      rw [if_pos solid] at leads
      have isLoop := faithful.isLoop inside rfl holds
      refine (isLoop.passes leads).mono (Nat.le_refl _) ?_
      rintro start stop noted ⟨times, repeats⟩
      exact anyTimes repeats
    · rename_i hollow
      rw [if_neg hollow] at leads
      have enters := appends_emitChoice greedy loop.entry_pos loop.entry_lt positive
        (Nat.lt_of_lt_of_le inside loop.size_le)
      have isLoop := faithful.isLoop inside rfl (holds.earlier enters)
      obtain ⟨rest, less, onward | stops⟩ := leads.of_choice (holds.later loop.size_le).emit
      · refine (isLoop.passes_entry onward).mono (Nat.le_of_lt less) ?_
        rintro start stop noted ⟨times, repeats⟩
        exact anyTimes repeats
      · exact (Passes.here stops).mono (Nat.le_of_lt less) anyTimes
  · intro next program whole position middle noted positive inside holds matches_ lives
    obtain ⟨count, -, -, repeats⟩ := matches_
    have loop := faithful.appends_loop greedy positive inside
    simp only [Expr.assemble] at holds ⊢
    split at holds
    · rename_i solid
      rw [if_pos solid]
      exact (faithful.isLoop inside rfl holds).lives repeats lives
    · rename_i hollow
      rw [if_neg hollow]
      have enters := appends_emitChoice greedy loop.entry_pos loop.entry_lt positive
        (Nat.lt_of_lt_of_le inside loop.size_le)
      have isLoop := faithful.isLoop inside rfl (holds.earlier enters)
      refine .of_choice (holds.later loop.size_le).emit ?_
      cases count with
      | zero =>
        cases repeats
        exact .inr lives
      | succ count => exact .inl (isLoop.lives_entry repeats lives)

/-- A loop that is gone through after so many times. -/
theorem isFaithful_rep_succ {more : Nat} (numbered : part.IsNumbered)
    (faithful : IsFaithful content (fun next program => part.assemble next program)
      (part.Matches content)) :
    IsFaithful content (fun next program => (Expr.rep (more + 1) none greedy part).assemble next
      program) ((Expr.rep (more + 1) none greedy part).Matches content) := by
  refine ⟨appends_assemble numbered, ?_, ?_⟩
  · intro next program whole stop final steps position slots positive inside holds leads
    have loop := faithful.appends_loop greedy positive inside
    have others := appends_emitTimes faithful.appends loop.entry_pos loop.entry_lt more
    have isLoop := faithful.isLoop inside rfl (holds.earlier others)
    have first := (faithful.times more).sound loop.entry_pos loop.entry_lt
      (holds.later loop.size_le) leads
    refine first.andThen (fun _ leads => isLoop.passes_entry leads) ?_
    rintro start middle stop before after repeats ⟨times, last⟩
    exact ⟨more + (times + 1), by omega, nofun, repeats.append last⟩
  · intro next program whole position middle noted positive inside holds matches_ lives
    obtain ⟨count, enough, -, repeats⟩ := matches_
    have loop := faithful.appends_loop greedy positive inside
    have others := appends_emitTimes faithful.appends loop.entry_pos loop.entry_lt more
    have isLoop := faithful.isLoop inside rfl (holds.earlier others)
    obtain ⟨times, rfl⟩ := Nat.exists_eq_add_of_le enough
    rw [Nat.add_assoc, Nat.add_comm 1 times] at repeats
    obtain ⟨between, _, _, first, last, -⟩ := repeats.split
    exact (faithful.times more).complete loop.entry_pos loop.entry_lt
      (holds.later loop.size_le) first (isLoop.lives_entry last lives)

theorem isFaithful_capture (numbered : (Expr.capture index part).IsNumbered)
    (nested : index ∉ part.groups)
    (faithful : IsFaithful content (fun next program => part.assemble next program)
      (part.Matches content)) :
    IsFaithful content (fun next program => (Expr.capture index part).assemble next program)
      ((Expr.capture index part).Matches content) := by
  have close {next : Nat} {program : Program} (positive : 0 < next) (inside : next < program.size) :
      Appends program (program.emit (.save (2 * index + 1) next)) := by
    refine .emit (Nat.zero_lt_of_lt inside) (isInner_of_targets_singleton rfl positive inside ?_)
    rintro slot next same
    cases same
    have := numbered.1
    omega
  have opens {entry : Nat} {program : Program} (positive : 0 < entry)
      (inside : entry < program.size) :
      Appends program (program.emit (.save (2 * index) entry)) := by
    refine .emit (Nat.zero_lt_of_lt inside) (isInner_of_targets_singleton rfl positive inside ?_)
    rintro slot next same
    cases same
    have := numbered.1
    omega
  refine ⟨appends_assemble numbered, ?_, ?_⟩
  · intro next program whole stop final steps position slots positive inside holds leads
    have last := close positive inside
    have inner := faithful.appends last.entry_pos last.entry_lt
    have holds_inner := holds.earlier (opens inner.entry_pos inner.entry_lt)
    obtain ⟨rest, less, leads⟩ :=
      leads.of_save (holds.later (Nat.le_trans last.size_le inner.size_le)).emit
    obtain ⟨middle, noted, after, left, fewer, match_, records, leads⟩ :=
      faithful.sound last.entry_pos last.entry_lt (holds_inner.later last.size_le) leads
    obtain ⟨final_steps, fewest, leads⟩ := leads.of_save (holds_inner.earlier inner).emit
    have absent : lastNoted noted index = none :=
      lastNoted_eq_none fun group member same => nested (same ▸ match_.index_mem group member)
    exact ⟨middle, _, _, final_steps, by omega, ⟨noted, match_, rfl⟩, records.capture absent, leads⟩
  · intro next program whole position middle noted positive inside holds matches_ lives
    obtain ⟨inner_noted, match_, -⟩ := matches_
    have last := close positive inside
    have inner := faithful.appends last.entry_pos last.entry_lt
    have holds_inner := holds.earlier (opens inner.entry_pos inner.entry_lt)
    refine .of_save (holds.later (Nat.le_trans last.size_le inner.size_le)).emit ?_
    exact faithful.complete last.entry_pos last.entry_lt (holds_inner.later last.size_le) match_
      (.of_save (holds_inner.earlier inner).emit lives)

end

/-- The program of an expression matches what the expression does. -/
theorem isFaithful_assemble {expr : Expr} (numbered : expr.IsNumbered) (nested : expr.IsNested)
    (content : Array UInt8) :
    IsFaithful content (fun next program => expr.assemble next program) (expr.Matches content) := by
  induction expr with
  | empty =>
    refine ⟨appends_assemble numbered, ?_, ?_⟩
    · intro next program whole stop final steps position slots positive inside holds leads
      exact ⟨position, [], slots, steps, Nat.le_refl _, ⟨rfl, rfl⟩, .refl slots, leads⟩
    · intro next program whole position middle noted positive inside holds matches_ lives
      obtain ⟨rfl, -⟩ := matches_
      exact lives
  | literal bytes =>
    refine ⟨appends_assemble numbered, ?_, ?_⟩
    · intro next program whole stop final steps position slots positive inside holds leads
      obtain ⟨isPrefix, rest, fewer, leads⟩ := passes_emitBytes positive inside holds leads
      rw [List.reverse_reverse] at isPrefix
      rw [List.length_reverse] at leads
      exact ⟨_, [], slots, rest, fewer, ⟨isPrefix, rfl, rfl⟩, .refl slots, leads⟩
    · intro next program whole position middle noted positive inside holds matches_ lives
      obtain ⟨isPrefix, rfl, -⟩ := matches_
      refine lives_emitBytes positive inside holds ?_ ?_
      · rwa [List.reverse_reverse]
      · rwa [List.length_reverse]
  | scalar set =>
    refine ⟨appends_assemble numbered, ?_, ?_⟩
    · intro next program whole stop final steps position slots positive inside holds leads
      obtain ⟨c, length, scalar, member, rest, less, leads⟩ := leads.of_scalar holds.emit
      exact ⟨_, [], slots, rest, Nat.le_of_lt less, ⟨c, length, scalar, member, rfl, rfl⟩,
        .refl slots, leads⟩
    · intro next program whole position middle noted positive inside holds matches_ lives
      obtain ⟨c, length, scalar, member, rfl, -⟩ := matches_
      have read : reads whole content position program.size = some (next, length) := by
        simp [reads, holds.emit, scalar, member]
      exact .reads read lives
  | byte set =>
    refine ⟨appends_assemble numbered, ?_, ?_⟩
    · intro next program whole stop final steps position slots positive inside holds leads
      obtain ⟨⟨b, here, member⟩, rest, less, leads⟩ := leads.of_byte holds.emit
      exact ⟨_, [], slots, rest, Nat.le_of_lt less, ⟨b, here, member, rfl, rfl⟩, .refl slots,
        leads⟩
    · intro next program whole position middle noted positive inside holds matches_ lives
      obtain ⟨b, here, member, rfl, -⟩ := matches_
      have read : reads whole content position program.size = some (next, 1) := by
        simp [reads, holds.emit, here, member]
      exact .reads read lives
  | look kind =>
    refine ⟨appends_assemble numbered, ?_, ?_⟩
    · intro next program whole stop final steps position slots positive inside holds leads
      obtain ⟨true_here, rest, less, leads⟩ := leads.of_look holds.emit
      exact ⟨_, [], slots, rest, Nat.le_of_lt less, ⟨true_here, rfl, rfl⟩, .refl slots, leads⟩
    · intro next program whole position middle noted positive inside holds matches_ lives
      obtain ⟨true_here, rfl, -⟩ := matches_
      have goes : silent whole content middle program.size #[] = some [(next, #[])] := by
        simp [silent, holds.emit, true_here]
      exact .silent goes List.mem_cons_self lives
  | seq first second firstIh secondIh =>
    have firstPart := firstIh numbered.1 nested.1
    have secondPart := secondIh numbered.2 nested.2
    refine ⟨appends_assemble numbered, ?_, ?_⟩
    · intro next program whole stop final steps position slots positive inside holds leads
      have last := secondPart.appends positive inside
      have before := firstPart.appends last.entry_pos last.entry_lt
      have passes := firstPart.sound last.entry_pos last.entry_lt (holds.later last.size_le) leads
      refine passes.andThen (fun _ leads =>
        secondPart.sound positive inside (holds.earlier before) leads) ?_
      exact fun firstMatches secondMatches => ⟨_, _, _, firstMatches, secondMatches, rfl⟩
    · intro next program whole position middle noted positive inside holds matches_ lives
      obtain ⟨between, _, _, firstMatches, secondMatches, -⟩ := matches_
      have last := secondPart.appends positive inside
      have before := firstPart.appends last.entry_pos last.entry_lt
      have onward := secondPart.complete positive inside (holds.earlier before) secondMatches lives
      exact firstPart.complete last.entry_pos last.entry_lt (holds.later last.size_le) firstMatches
        onward
  | alt first second firstIh secondIh =>
    have firstPart := firstIh numbered.1 nested.1
    have secondPart := secondIh numbered.2 nested.2
    refine ⟨appends_assemble numbered, ?_, ?_⟩
    · intro next program whole stop final steps position slots positive inside holds leads
      have last := secondPart.appends positive inside
      have inside_last := Nat.lt_of_lt_of_le inside last.size_le
      have before := firstPart.appends positive inside_last
      have choice := before.emit_branch last
      obtain ⟨rest, less, onward | onward⟩ :=
        leads.of_branch (holds.later (Nat.le_trans last.size_le before.size_le)).emit
      · have holds_first := (holds.later last.size_le).earlier choice
        exact (firstPart.sound positive inside_last holds_first onward).mono (Nat.le_of_lt less)
          .inl
      · have holds_second := (holds.earlier choice).earlier before
        exact (secondPart.sound positive inside holds_second onward).mono (Nat.le_of_lt less)
          .inr
    · intro next program whole position middle noted positive inside holds matches_ lives
      have last := secondPart.appends positive inside
      have inside_last := Nat.lt_of_lt_of_le inside last.size_le
      have before := firstPart.appends positive inside_last
      have choice := before.emit_branch last
      refine .of_branch (holds.later (Nat.le_trans last.size_le before.size_le)).emit ?_
      rcases matches_ with firstMatches | secondMatches
      · have holds_first := (holds.later last.size_le).earlier choice
        exact .inl (firstPart.complete positive inside_last holds_first firstMatches lives)
      · have holds_second := (holds.earlier choice).earlier before
        exact .inr (secondPart.complete positive inside holds_second secondMatches lives)
  | rep least most greedy part ih =>
    have faithful := ih numbered nested
    cases most with
    | some most => exact isFaithful_rep_some numbered faithful
    | none =>
      cases least with
      | zero => exact isFaithful_rep_zero numbered faithful
      | succ more => exact isFaithful_rep_succ numbered faithful
  | capture index part ih => exact isFaithful_capture numbered nested.1 (ih numbered.2 nested.2)

/-! ## The program of an expression -/

variable {expr : Expr} {start : Nat} {noted : List Noted} {initial : Slots}

/-- What the program of an expression goes on with after a match. -/
def bottom : Program := #[.accept, .save 1 0]

theorem holds_program (numbered : expr.IsNumbered) :
    Holds expr.program.2 bottom.size (expr.assemble 1 bottom).2 ∧
      expr.program.2[1]? = some (.save 1 0) ∧
      expr.program.2[expr.program.1]? = some (.save 0 (expr.assemble 1 bottom).1) := by
  have appends : Appends bottom (expr.assemble 1 bottom) :=
    appends_assemble numbered Nat.zero_lt_one Nat.one_lt_two
  have program_eq : expr.program =
    (expr.assemble 1 bottom).2.emit (.save 0 (expr.assemble 1 bottom).1) := rfl
  have searchable := Expr.isSearchable_program numbered
  refine ⟨?_, searchable.stops, ?_⟩
  · intro place beyond inside
    rw [program_eq, Program.emit, Array.getElem?_push, if_neg (Nat.ne_of_lt inside)]
  · rw [program_eq]
    simp [Program.emit]

/-- Every way from the entry to the end of a match is one through a match of the expression. -/
theorem exists_matches_of_leads (numbered : expr.IsNumbered) (nested : expr.IsNested)
    (leads : Leads expr.program.2 content stop final steps expr.program.1 start initial) :
    ∃ noted, (Expr.capture 0 expr).Matches content start stop noted ∧
      Records initial noted final := by
  obtain ⟨holds, at_stop, at_entry⟩ := holds_program numbered
  have searchable := Expr.isSearchable_program numbered
  have inside : 1 < bottom.size := Nat.one_lt_two
  obtain ⟨rest, -, leads⟩ := leads.of_save at_entry
  obtain ⟨last, inner, after, left, -, match_, records, leads⟩ :=
    (isFaithful_assemble numbered nested content).sound Nat.zero_lt_one inside holds leads
  obtain ⟨_, -, leads⟩ := leads.of_save at_stop
  obtain ⟨rfl, rfl⟩ := leads.of_accept searchable.accepts
  have absent : lastNoted inner 0 = none := by
    apply lastNoted_eq_none
    intro group member same
    have positive := Expr.isNumbered_iff.mp numbered _ (match_.index_mem group member)
    omega
  exact ⟨_, ⟨inner, match_, rfl⟩, records.capture absent⟩

/-- Where a match of the expression starts, its program finds one. -/
theorem lives_of_matches (numbered : expr.IsNumbered) (nested : expr.IsNested)
    (matches_ : expr.Matches content start stop noted) (inside : stop ≤ content.size) :
    Lives expr.program.2 content expr.program.1 start := by
  obtain ⟨holds, at_stop, at_entry⟩ := holds_program numbered
  have searchable := Expr.isSearchable_program numbered
  have one_lt : 1 < bottom.size := Nat.one_lt_two
  refine .of_save at_entry ?_
  refine (isFaithful_assemble numbered nested content).complete Nat.zero_lt_one one_lt holds
    matches_ ?_
  exact .of_save at_stop (.accept searchable.accepts inside)

end Emend.Pattern
