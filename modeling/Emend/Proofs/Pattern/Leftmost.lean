/-
# Searches find the leftmost match

The result of a search is read off its live threads: two searches with the same live threads have
the same result, and the first live thread is the one that decides.  So a search goes to the first
position where a match can start, and what it notes is noted on a way from there.
-/

import Emend.Proofs.Pattern.Live

namespace Emend.Pattern

variable {program : Program} {content : Array UInt8} {position place next : Nat} {slots : Slots}

/-! ## Ways through a program -/

/-- A search that starts at a place can come to another place, where it has noted some slots. -/
inductive Reaches (program : Program) (content : Array UInt8) (entry start : Nat)
    (initial : Slots) : (place position : Nat) → Slots → Prop where
  | start : Reaches program content entry start initial entry start initial
  | silent {place position next : Nat} {slots noted : Slots} {successors : List (Nat × Slots)}
      (before : Reaches program content entry start initial place position slots)
      (goes : silent program content position place slots = some successors)
      (member : (next, noted) ∈ successors) :
      Reaches program content entry start initial next position noted
  | reads {place position next length : Nat} {slots : Slots}
      (before : Reaches program content entry start initial place position slots)
      (read : reads program content position place = some (next, length)) :
      Reaches program content entry start initial next (position + length) slots

variable {entry start : Nat} {initial : Slots}

/-- A thread has come from a place, and waits where it is. -/
structure Thread.ComesFrom (program : Program) (content : Array UInt8) (entry start : Nat)
    (initial : Slots) (position : Nat) (thread : Thread) : Prop where
  reaches : Reaches program content entry start initial thread.place (position + thread.delay)
    thread.slots
  settled : thread.IsSettled program content position

theorem Follows.comesFrom {frontier last : Frontier} {pending : List (Nat × Slots)}
    (follows : Follows program content position frontier pending last)
    (origins : ∀ entry' ∈ pending,
      Reaches program content entry start initial entry'.1 position entry'.2)
    {thread : Thread} (member : thread ∈ last.list) :
    thread ∈ frontier.list ∨ thread.ComesFrom program content entry start initial position := by
  induction follows with
  | done => exact .inl member
  | taken before others ih =>
    exact ih (fun entry' listed => origins entry' (List.mem_cons_of_mem _ listed)) member
  | @silent frontier last place slots pending successors free goes others ih =>
    refine ih (fun entry' listed => ?_) member
    rcases List.mem_append.mp listed with anew | pending
    · exact .silent (origins _ List.mem_cons_self) goes anew
    · exact origins entry' (List.mem_cons_of_mem _ pending)
  | @waits frontier last place slots pending free stays others ih =>
    rcases ih (fun entry' listed => origins entry' (List.mem_cons_of_mem _ listed)) member with
      before | anew
    · rcases List.mem_append.mp before with before | same
      · exact .inl before
      · rw [List.mem_singleton.mp same]
        exact .inr ⟨origins _ List.mem_cons_self, fun _ => stays⟩
    · exact .inr anew

theorem Reaches.arrives {thread : Thread} {delay : Nat}
    (comes : thread.ComesFrom program content entry start initial position)
    (arrives : thread.arrives program content position = some (next, delay)) :
    Reaches program content entry start initial next (position + 1 + delay) thread.slots := by
  obtain ⟨place, waiting, slots⟩ := thread
  cases waiting with
  | zero =>
    obtain ⟨⟨_, length⟩, read, same⟩ := Option.map_eq_some_iff.mp arrives
    cases same
    have positive := length_pos_of_reads read
    have onward : position + 1 + (length - 1) = position + length := by omega
    rw [onward]
    exact .reads comes.reaches read
  | succ waiting =>
    cases arrives
    have onward : position + 1 + delay = position + (delay + 1) := by omega
    rw [onward]
    exact comes.reaches

/-! ## Threads in order -/

/-- The first live one of some threads has come from a place. -/
def LeadsFrom (program : Program) (content : Array UInt8) (entry start : Nat) (initial : Slots)
    (position : Nat) (threads : List Thread) : Prop :=
  ∃ thread ∈ (liveOf program content position threads).head?,
    thread.ComesFrom program content entry start initial position

theorem LeadsFrom.of_prefix {first threads : List Thread}
    (leads : LeadsFrom program content entry start initial position first)
    (longer : first <+: threads) :
    LeadsFrom program content entry start initial position threads := by
  obtain ⟨thread, head, comes⟩ := leads
  obtain ⟨others, rfl⟩ := longer
  refine ⟨thread, ?_, comes⟩
  rw [liveOf_append]
  exact List.mem_head?_append_of_mem_head? head

/-- A live thread comes first among those that begin with it. -/
theorem Thread.ComesFrom.leadsFrom {thread : Thread} {threads : List Thread}
    (comes : thread.ComesFrom program content entry start initial position)
    (lives : thread.IsLive program content position) (first : [thread] <+: threads) :
    LeadsFrom program content entry start initial position threads := by
  refine LeadsFrom.of_prefix ⟨thread, ?_, comes⟩ first
  rw [liveOf_cons_of_isLive [] lives]
  rfl

/-- What is reached from a live place comes first if nothing live was there before. -/
theorem Follows.leadsFrom {frontier last : Frontier} (empty : frontier.list = [])
    (fresh : ∀ place, frontier.taken place → ¬ Lives program content place position)
    (lives : Lives program content place position)
    (reaches : Reaches program content entry start initial place position slots)
    (follows : Follows program content position frontier [(place, slots)] last) :
    LeadsFrom program content entry start initial position last.list := by
  have taken := follows.taken_of_mem List.mem_cons_self
  obtain ⟨some_thread, member, isLive⟩ := follows.exists_isLive fresh lives taken
  have nonempty : liveOf program content position last.list ≠ [] :=
    List.ne_nil_of_mem (mem_liveOf.mpr ⟨member, isLive⟩)
  obtain ⟨thread, others, live_eq⟩ := List.exists_cons_of_ne_nil nonempty
  have listed : thread ∈ last.list :=
    (mem_liveOf.mp (live_eq ▸ List.mem_cons_self : thread ∈ liveOf program content position _)).1
  refine ⟨thread, by rw [live_eq]; rfl, ?_⟩
  refine (follows.comesFrom ?_ listed).resolve_left (by simp [empty])
  rintro _ same
  rwa [List.mem_singleton.mp same]

/-- If the first thread is live it either accepts, and no thread goes on, or a live thread that it
turns into comes first one byte further. -/
theorem AdvancesAll.accepts_or_leadsFrom_of_cons {frontier last : Frontier} {thread : Thread}
    {threads : List Thread} {ended : Option Slots} (empty : frontier.list = [])
    (fresh : ∀ place, frontier.taken place → ¬ Lives program content place (position + 1))
    (comes : thread.ComesFrom program content entry start initial position)
    (lives : thread.IsLive program content position)
    (advances : AdvancesAll program content position frontier (thread :: threads) last ended) :
    (last.list = [] ∧ ∃ place slots, ended = some slots ∧ program[place]? = some .accept ∧
        Reaches program content entry start initial place position slots) ∨
      LeadsFrom program content entry start initial (position + 1) last.list := by
  cases advances with
  | accepts accepts =>
    have reaches := comes.reaches
    rw [accepts.1] at reaches
    exact .inl ⟨empty, thread.place, thread.slots, rfl, accepts.2, reaches⟩
  | onward goes advances others =>
    refine .inr (LeadsFrom.of_prefix ?_ others.prefix_list)
    obtain ⟨next, delay, arrives⟩ := lives.exists_arrives comes.settled goes
    have onward := (Thread.isLive_iff_of_arrives arrives).mp lives
    have reaches := Reaches.arrives comes arrives
    cases advances with
    | stops stops => cases arrives.symm.trans stops
    | enters same follows =>
      cases arrives.symm.trans same
      exact follows.leadsFrom empty fresh onward reaches
    | @passes _ delay same =>
      cases arrives.symm.trans same
      let passing : Thread := ⟨next, delay + 1, thread.slots⟩
      have passingComes : passing.ComesFrom program content entry start initial (position + 1) :=
        ⟨reaches, nofun⟩
      refine passingComes.leadsFrom onward ?_
      rw [Frontier.push_list, empty]
      exact List.prefix_rfl

/-- If the first live thread has come from a place then it either accepts, and no live thread goes
on, or the first live thread one byte further has come from there. -/
theorem AdvancesAll.accepts_or_leadsFrom {frontier last : Frontier} {threads : List Thread}
    {ended : Option Slots} (inside : position ≤ content.size) (empty : frontier.list = [])
    (fresh : ∀ place, frontier.taken place → ¬ Lives program content place (position + 1))
    (advances : AdvancesAll program content position frontier threads last ended)
    (leads : LeadsFrom program content entry start initial position threads) :
    (liveOf program content (position + 1) last.list = [] ∧
      ∃ place slots, ended = some slots ∧ program[place]? = some .accept ∧
        Reaches program content entry start initial place position slots) ∨
    LeadsFrom program content entry start initial (position + 1) last.list := by
  obtain ⟨thread, first, comes⟩ := leads
  obtain ⟨others, live_eq⟩ := List.head?_eq_some_iff.mp first
  have lives : thread.IsLive program content position :=
    (mem_liveOf.mp (live_eq ▸ List.mem_cons_self : thread ∈ liveOf program content position _)).2
  have live := advances.live inside
  rw [live_eq] at live
  have live_empty : (frontier.live program content (position + 1)).list = [] := by
    simp [Frontier.live, empty, liveOf]
  have live_fresh (place : Nat)
      (taken : (frontier.live program content (position + 1)).taken place) :
      ¬ Lives program content place (position + 1) := taken.elim (fresh place) id
  have outcome := live.accepts_or_leadsFrom_of_cons live_empty live_fresh comes lives
  simp only [Frontier.live, LeadsFrom, liveOf_liveOf] at outcome
  exact outcome

/-! ## Searches -/

theorem not_lives_of_size_le (beyond : program.size ≤ place) :
    ¬ Lives program content place position := by
  have nothing : program[place]? = none := Array.getElem?_eq_none beyond
  intro lives
  cases lives with
  | accept accepts =>
    rw [nothing] at accepts
    cases accepts
  | silent goes member =>
    simp only [silent, nothing, Option.some.injEq] at goes
    subst goes
    cases member
  | reads read =>
    simp only [reads, nothing] at read
    cases read

namespace Threads

@[simp] theorem frontier_fresh_list (size : Nat) : (fresh size).frontier.list = [] := rfl

theorem not_lives_of_taken_fresh (taken : (fresh program.size).frontier.taken place) :
    ¬ Lives program content place position := by
  apply not_lives_of_size_le
  by_contra inside
  rw [Nat.not_le] at inside
  exact taken (by simp [fresh, inside])

@[simp] theorem size_taken_fresh (size : Nat) : (fresh size).taken.size = size := by
  simp [fresh]

end Threads

@[simp] theorem size_taken_advance (thread : Thread) (after : Threads) :
    (thread.advance program content position after).taken.size = after.taken.size := by
  rw [Thread.advance_eq]
  split <;> simp [Threads.enter, Threads.push]

@[simp] theorem size_taken_advanceAll (after : Threads) (threads : List Thread) :
    (advanceAll program content position after threads).1.taken.size = after.taken.size := by
  induction threads generalizing after with
  | nil => rfl
  | cons thread threads ih =>
    rw [advanceAll]
    split
    · rfl
    · rw [ih, size_taken_advance]

theorem advances_advance {after : Threads} (fits : after.taken.size = program.size)
    (thread : Thread) :
    Advances program content position after.frontier thread
      (thread.advance program content position after).frontier := by
  rw [Thread.advance_eq]
  split
  · rename_i stops
    exact .stops stops
  · rename_i arrives
    exact .enters arrives (Threads.follows_enter content (position + 1) fits _ _)
  · rename_i arrives
    rw [Threads.frontier_push]
    exact .passes arrives

theorem advancesAll_advanceAll (content : Array UInt8) (position : Nat) {after : Threads}
    (fits : after.taken.size = program.size) (threads : List Thread) :
    AdvancesAll program content position after.frontier threads
      (advanceAll program content position after threads).1.frontier
      (advanceAll program content position after threads).2 := by
  induction threads generalizing after with
  | nil => exact .done
  | cons thread threads ih =>
    rw [advanceAll]
    split
    · rename_i accepts
      exact .accepts accepts
    · rename_i goes
      exact .onward goes (advances_advance fits thread) (ih (by rw [size_taken_advance, fits]))

variable {slotCount left : Nat} {threads others : Threads} {found : Option Slots}

/-- Without live threads there are none one byte further, and none of them accepts. -/
theorem advanceAll_of_dead (inside : position ≤ content.size) {threads : List Thread}
    (dead : liveOf program content position threads = []) :
    let after := advanceAll program content position (.fresh program.size) threads
    after.1.frontier.live program content (position + 1) =
        (Threads.fresh program.size).frontier.live program content (position + 1) ∧
      after.2 = none := by
  intro after
  have advances := advancesAll_advanceAll content position
    (Threads.size_taken_fresh program.size) threads
  have live := advances.live inside
  rw [dead] at live
  exact AdvancesAll.done.unique live

/-- Without live threads nothing better is found. -/
theorem searchFrom_of_dead {best : Slots} (at_end : position + left = content.size)
    (dead : liveOf program content position threads.list.toList = []) :
    searchFrom program entry slotCount content left position threads (some best) = some best := by
  induction left generalizing position threads with
  | zero =>
    obtain ⟨-, ended_eq⟩ := advanceAll_of_dead (by omega) dead
    simp only [searchFrom, searchFrom.start, Option.isNone_some, Bool.false_eq_true, if_false,
      ended_eq]
    rfl
  | succ left ih =>
    obtain ⟨after_eq, ended_eq⟩ := advanceAll_of_dead (by omega) dead
    simp only [searchFrom, searchFrom.start, Option.isNone_some, Bool.false_eq_true, if_false,
      ended_eq]
    split
    · rfl
    · exact ih (by omega) (congrArg Frontier.list after_eq)

theorem start_congr (entry slotCount : Nat) (found : Option Slots)
    (fits : threads.taken.size = program.size)
    (otherFits : others.taken.size = program.size)
    (same : threads.frontier.live program content position =
      others.frontier.live program content position) :
    (searchFrom.start program entry slotCount content position threads found).frontier.live
        program content position =
      (searchFrom.start program entry slotCount content position others found).frontier.live
        program content position := by
  unfold searchFrom.start
  split
  · have first := (Threads.follows_enter content position fits entry
      (Array.replicate slotCount none)).live
    have second := (Threads.follows_enter content position otherFits entry
      (Array.replicate slotCount none)).live
    rw [same] at first
    exact second.unique first
  · exact same

/-- What a search does at one position: threads start there and all read a byte. -/
def searchStep (program : Program) (entry slotCount : Nat) (content : Array UInt8) (position : Nat)
    (threads : Threads) (found : Option Slots) : Threads × Option Slots :=
  advanceAll program content position (.fresh program.size)
    (searchFrom.start program entry slotCount content position threads found).list.toList

@[simp] theorem size_taken_searchStep :
    (searchStep program entry slotCount content position threads found).1.taken.size =
      program.size := by
  simp [searchStep]

theorem searchFrom_zero :
    searchFrom program entry slotCount content 0 position threads found =
      ((searchStep program entry slotCount content position threads found).2 <|> found) := rfl

/-- That a search ends early makes no difference. -/
theorem searchFrom_succ (at_end : position + (left + 1) = content.size) :
    searchFrom program entry slotCount content (left + 1) position threads found =
      searchFrom program entry slotCount content left (position + 1)
        (searchStep program entry slotCount content position threads found).1
        ((searchStep program entry slotCount content position threads found).2 <|> found) := by
  rw [searchFrom]
  split
  · rename_i stops
    simp only [Bool.and_eq_true, Array.isEmpty_iff, Option.isSome_iff_exists] at stops
    obtain ⟨none_left, best, rfl⟩ := stops
    have after_eq : searchStep program entry slotCount content position threads (some best) =
        (.fresh program.size, none) := by
      rw [searchStep, none_left]
      rfl
    rw [after_eq]
    exact (searchFrom_of_dead (by omega) rfl).symm
  · rfl

/-- The live threads one byte further and the match that ends depend on the live threads only. -/
theorem searchStep_congr (entry slotCount : Nat) (found : Option Slots)
    (inside : position ≤ content.size)
    (fits : threads.taken.size = program.size) (otherFits : others.taken.size = program.size)
    (same : threads.frontier.live program content position =
      others.frontier.live program content position) :
    let after := searchStep program entry slotCount content position threads found
    let otherAfter := searchStep program entry slotCount content position others found
    after.1.frontier.live program content (position + 1) =
        otherAfter.1.frontier.live program content (position + 1) ∧
      after.2 = otherAfter.2 := by
  intro after otherAfter
  have started := start_congr entry slotCount found fits otherFits same
  have live_eq : liveOf program content position
      (searchFrom.start program entry slotCount content position threads found).list.toList =
        liveOf program content position
          (searchFrom.start program entry slotCount content position others found).list.toList :=
    congrArg Frontier.list started
  have advances := advancesAll_advanceAll content position
    (Threads.size_taken_fresh program.size)
  have first := (advances
    (searchFrom.start program entry slotCount content position threads found).list.toList).live
      inside
  have second := (advances
    (searchFrom.start program entry slotCount content position others found).list.toList).live
      inside
  rw [live_eq] at first
  exact second.unique first

/-- The result of a search depends on the live threads only. -/
theorem searchFrom_congr (at_end : position + left = content.size)
    (fits : threads.taken.size = program.size) (otherFits : others.taken.size = program.size)
    (same : threads.frontier.live program content position =
      others.frontier.live program content position) :
    searchFrom program entry slotCount content left position threads found =
      searchFrom program entry slotCount content left position others found := by
  induction left generalizing position threads others found with
  | zero =>
    obtain ⟨-, ended_eq⟩ :=
      searchStep_congr entry slotCount found (by omega) fits otherFits same
    rw [searchFrom_zero, searchFrom_zero, ended_eq]
  | succ left ih =>
    obtain ⟨after_eq, ended_eq⟩ :=
      searchStep_congr entry slotCount found (by omega) fits otherFits same
    rw [searchFrom_succ at_end, searchFrom_succ at_end, ended_eq]
    exact ih (by omega) size_taken_searchStep size_taken_searchStep after_eq

theorem LeadsFrom.le_size {threads : List Thread}
    (leads : LeadsFrom program content entry start initial position threads) :
    position ≤ content.size := by
  obtain ⟨thread, first, -⟩ := leads
  have lives := (mem_liveOf.mp (List.mem_of_mem_head? first)).2
  exact Nat.le_trans (Nat.le_add_right _ _) lives.le_size

/-- Threads that start later come after those from before. -/
theorem LeadsFrom.start_of_list (fits : threads.taken.size = program.size)
    (leads : LeadsFrom program content entry start initial position threads.list.toList)
    (later : Nat) :
    LeadsFrom program content entry start initial position
      (searchFrom.start program later slotCount content position threads found).list.toList := by
  unfold searchFrom.start
  split
  · exact leads.of_prefix (Threads.follows_enter content position fits later _).prefix_list
  · exact leads

theorem searchStep_of_leadsFrom
    (leads : LeadsFrom program content entry start initial position
      (searchFrom.start program entry slotCount content position threads found).list.toList) :
    let after := searchStep program entry slotCount content position threads found
    (liveOf program content (position + 1) after.1.list.toList = [] ∧
      ∃ place slots, after.2 = some slots ∧ program[place]? = some .accept ∧
        Reaches program content entry start initial place position slots) ∨
    LeadsFrom program content entry start initial (position + 1) after.1.list.toList :=
  AdvancesAll.accepts_or_leadsFrom leads.le_size (Threads.frontier_fresh_list program.size)
    (fun _ => Threads.not_lives_of_taken_fresh)
    (advancesAll_advanceAll content position (Threads.size_taken_fresh program.size) _) leads

/-- If the first live thread has come from a place then so has what is found. -/
theorem exists_searchFrom_eq_some (at_end : position + left = content.size)
    (leads : LeadsFrom program content entry start initial position
      (searchFrom.start program entry slotCount content position threads found).list.toList) :
    ∃ place stop slots,
      searchFrom program entry slotCount content left position threads found = some slots ∧
        program[place]? = some .accept ∧ stop ≤ content.size ∧
        Reaches program content entry start initial place stop slots := by
  induction left generalizing position threads found with
  | zero =>
    rw [searchFrom_zero]
    rcases searchStep_of_leadsFrom leads with ⟨-, place, slots, ended_eq, accepts, reaches⟩ | onward
    · exact ⟨place, position, slots, by rw [ended_eq]; rfl, accepts, leads.le_size, reaches⟩
    · exact absurd onward.le_size (by omega)
  | succ left ih =>
    rw [searchFrom_succ at_end]
    rcases searchStep_of_leadsFrom leads with
      ⟨dead, place, slots, ended_eq, accepts, reaches⟩ | onward
    · refine ⟨place, position, slots, ?_, accepts, leads.le_size, reaches⟩
      rw [ended_eq]
      exact searchFrom_of_dead (by omega) dead
    · exact ih (by omega) (onward.start_of_list size_taken_searchStep entry)

namespace Program

/-- A search finds a match that starts where it starts, if there is one. -/
theorem exists_search_eq_some (lives : Lives program content entry position) (slotCount : Nat) :
    ∃ place stop slots, program.search entry slotCount content position = some slots ∧
      program[place]? = some .accept ∧ stop ≤ content.size ∧
      Reaches program content entry position (Array.replicate slotCount none) place stop slots := by
  have inside := lives.le_size
  rw [search, if_pos inside]
  refine exists_searchFrom_eq_some (by omega) ?_
  exact (Threads.follows_enter content position (Threads.size_taken_fresh program.size) _ _).leadsFrom
    (Threads.frontier_fresh_list program.size) (fun _ => Threads.not_lives_of_taken_fresh) lives
    .start

/-- Where no match can start a search goes one byte further. -/
theorem search_succ (dead : ¬ Lives program content entry position) (slotCount : Nat) :
    program.search entry slotCount content position =
      program.search entry slotCount content (position + 1) := by
  by_cases inside : position ≤ content.size
  · have nothing : Follows program content position
        ((Threads.fresh program.size).frontier.live program content position)
        [(entry, Array.replicate slotCount none)]
        ((Threads.fresh program.size).frontier.live program content position) :=
      .taken (Or.inr dead) .done
    have started := nothing.unique
      (Threads.follows_enter content position (Threads.size_taken_fresh program.size) _ _).live
    obtain ⟨after_eq, ended_eq⟩ := advanceAll_of_dead inside (congrArg Frontier.list started)
    change (searchStep program entry slotCount content position (.fresh program.size) none).2 = none
      at ended_eq
    rw [search, if_pos inside]
    rcases left_eq : content.size - position with - | left
    · rw [search, if_neg (by omega), searchFrom_zero, ended_eq]
      rfl
    · have same : content.size - (position + 1) = left := by omega
      rw [search, if_pos (by omega), searchFrom_succ (by omega), ended_eq, same]
      exact searchFrom_congr (by omega) size_taken_searchStep (Threads.size_taken_fresh _) after_eq
  · rw [search, search, if_neg inside, if_neg (by omega)]

/-- A search goes to the first position where a match can start. -/
theorem exists_lives_of_search_eq_some {slotCount : Nat}
    (found : program.search entry slotCount content position = some slots) :
    ∃ start, position ≤ start ∧ Lives program content entry start ∧
      ∀ between, position ≤ between → between ≤ start →
        program.search entry slotCount content between = some slots := by
  induction left : content.size + 1 - position generalizing position with
  | zero =>
    rw [search, if_neg (by omega)] at found
    cases found
  | succ left ih =>
    by_cases lives : Lives program content entry position
    · refine ⟨position, Nat.le_refl _, lives, fun between least most => ?_⟩
      rwa [Nat.le_antisymm most least]
    · have next_eq := search_succ lives slotCount
      obtain ⟨start, later, startLives, same⟩ := ih (next_eq ▸ found) (by omega)
      refine ⟨start, by omega, startLives, fun between least most => ?_⟩
      rcases Nat.eq_or_lt_of_le least with rfl | less
      · exact found
      · exact same between less most

/-- A search from before where a match can start finds one that starts there or further left. -/
theorem exists_search_eq_some_of_le {start : Nat} (lives : Lives program content entry start)
    (later : position ≤ start) (slotCount : Nat) :
    ∃ first ≤ start, ∃ place stop slots,
      program.search entry slotCount content position = some slots ∧
        program[place]? = some .accept ∧
        Reaches program content entry first (Array.replicate slotCount none) place stop slots := by
  induction distance : start - position generalizing position with
  | zero =>
    obtain rfl : position = start := by omega
    obtain ⟨place, stop, slots, searched, accepts, -, reaches⟩ :=
      exists_search_eq_some lives slotCount
    exact ⟨position, later, place, stop, slots, searched, accepts, reaches⟩
  | succ distance ih =>
    by_cases here : Lives program content entry position
    · obtain ⟨place, stop, slots, searched, accepts, -, reaches⟩ :=
        exists_search_eq_some here slotCount
      exact ⟨position, later, place, stop, slots, searched, accepts, reaches⟩
    · rw [search_succ here]
      exact ih (by omega) (by omega)

end Program

end Emend.Pattern
