/-
# Live threads

A search keeps threads that cannot come to a match beside those that can.  Dead threads turn into
dead threads only, and the places that these take up are dead too, so that the live threads at a
position determine the live threads one byte further.
-/

import Emend.Proofs.Pattern.Threads

namespace Emend.Pattern

variable {program : Program} {content : Array UInt8} {position place next length : Nat}
  {slots : Slots}

/-! ## Live threads -/

/-- Whether a thread can come to a match. -/
def Thread.IsLive (program : Program) (content : Array UInt8) (position : Nat) (thread : Thread) :
    Prop :=
  Lives program content thread.place (position + thread.delay)

open Classical in
/-- The live ones of some threads. -/
noncomputable def liveOf (program : Program) (content : Array UInt8) (position : Nat)
    (threads : List Thread) : List Thread :=
  threads.filter (·.IsLive program content position)

theorem liveOf_append (first second : List Thread) :
    liveOf program content position (first ++ second) =
      liveOf program content position first ++ liveOf program content position second :=
  List.filter_append ..

theorem liveOf_cons_of_isLive {thread : Thread} (threads : List Thread)
    (lives : thread.IsLive program content position) :
    liveOf program content position (thread :: threads) =
      thread :: liveOf program content position threads := by
  simp [liveOf, lives]

theorem liveOf_cons_of_not_isLive {thread : Thread} (threads : List Thread)
    (dead : ¬ thread.IsLive program content position) :
    liveOf program content position (thread :: threads) =
      liveOf program content position threads := by
  simp [liveOf, dead]

theorem mem_liveOf {thread : Thread} {threads : List Thread} :
    thread ∈ liveOf program content position threads ↔
      thread ∈ threads ∧ thread.IsLive program content position := by
  simp [liveOf]

theorem liveOf_liveOf (threads : List Thread) :
    liveOf program content position (liveOf program content position threads) =
      liveOf program content position threads := by
  simp [liveOf]

namespace Frontier

/-- The live threads of a frontier.  That places which are not live count as taken up makes no
difference to them. -/
noncomputable def live (program : Program) (content : Array UInt8) (position : Nat)
    (frontier : Frontier) : Frontier where
  taken place := frontier.taken place ∨ ¬ Lives program content place position
  list := liveOf program content position frontier.list

variable {frontier : Frontier}

theorem live_take (frontier : Frontier) (place : Nat) :
    (frontier.take place).live program content position =
      (frontier.live program content position).take place := by
  ext other
  · simp only [live, take]
    rw [or_assoc]
  · rfl

/-- A dead place counts as taken up. -/
theorem take_live_of_not_lives (dead : ¬ Lives program content place position) :
    (frontier.live program content position).take place =
      frontier.live program content position := by
  ext other
  · simp only [live, take]
    constructor
    · rintro (rfl | before)
      · exact .inr dead
      · exact before
    · exact .inr
  · rfl

theorem live_push_of_isLive {thread : Thread} (lives : thread.IsLive program content position) :
    (frontier.push thread).live program content position =
      (frontier.live program content position).push thread := by
  simp only [live, push, liveOf_append, liveOf_cons_of_isLive [] lives]
  rfl

theorem live_push_of_not_isLive {thread : Thread}
    (dead : ¬ thread.IsLive program content position) :
    (frontier.push thread).live program content position =
      frontier.live program content position := by
  simp only [live, push, liveOf_append, liveOf_cons_of_not_isLive [] dead]
  simp [liveOf]

end Frontier

namespace Follows

variable {frontier last : Frontier} {pending : List (Nat × Slots)}

/-- The live threads that are added depend on the live ones only. -/
theorem live (follows : Follows program content position frontier pending last) :
    Follows program content position (frontier.live program content position) pending
      (last.live program content position) := by
  induction follows with
  | done => exact .done
  | taken before others ih => exact .taken (.inl before) ih
  | @silent frontier last place slots pending successors free goes others ih =>
    rw [Frontier.live_take] at ih
    by_cases lives : Lives program content place position
    · exact .silent (fun taken => taken.elim free (· lives)) goes ih
    · -- what a dead place leads to is dead, so nothing is added
      rw [Frontier.take_live_of_not_lives lives] at ih
      refine .taken (.inr lives) (of_taken ?_ ih)
      rintro ⟨next, noted⟩ member
      exact .inr fun onward => lives (.silent goes member onward)
  | @waits frontier last place slots pending free stays others ih =>
    by_cases lives : Lives program content place position
    · have isLive : Thread.IsLive program content position ⟨place, 0, slots⟩ := lives
      rw [Frontier.live_push_of_isLive isLive, Frontier.live_take] at ih
      exact .waits (fun taken => taken.elim free (· lives)) stays ih
    · have dead : ¬ Thread.IsLive program content position ⟨place, 0, slots⟩ := lives
      rw [Frontier.live_push_of_not_isLive dead, Frontier.live_take,
        Frontier.take_live_of_not_lives lives] at ih
      exact .taken (.inr lives) ih

/-- Threads are added behind those that there are. -/
theorem prefix_list (follows : Follows program content position frontier pending last) :
    frontier.list <+: last.list := by
  induction follows with
  | done => exact List.prefix_rfl
  | taken before others ih => exact ih
  | silent free goes others ih => exact ih
  | waits free stays others ih => exact (List.prefix_append _ _).trans ih

theorem taken_of_taken (follows : Follows program content position frontier pending last)
    (taken : frontier.taken place) : last.taken place := by
  induction follows with
  | done => exact taken
  | taken before others ih => exact ih taken
  | silent free goes others ih => exact ih (.inr taken)
  | waits free stays others ih => exact ih (.inr taken)

/-- What is reached is taken up. -/
theorem taken_of_mem (follows : Follows program content position frontier pending last)
    {noted : Slots} (member : (place, noted) ∈ pending) : last.taken place := by
  induction follows with
  | done => cases member
  | taken before others ih =>
    rcases List.mem_cons.mp member with same | member
    · cases same
      exact others.taken_of_taken before
    · exact ih member
  | silent free goes others ih =>
    rcases List.mem_cons.mp member with same | member
    · cases same
      exact others.taken_of_taken (.inl rfl)
    · exact ih (List.mem_append_right _ member)
  | waits free stays others ih =>
    rcases List.mem_cons.mp member with same | member
    · cases same
      exact others.taken_of_taken (.inl rfl)
    · exact ih member

/-- What is taken up anew either leads on to what is taken up or waits in a thread. -/
theorem closed (follows : Follows program content position frontier pending last)
    (taken : last.taken place) :
    frontier.taken place ∨
      (∃ slots successors, Pattern.silent program content position place slots = some successors ∧
        ∀ successor ∈ successors, last.taken successor.1) ∨
      ∃ slots, ⟨place, 0, slots⟩ ∈ last.list ∧
        Pattern.silent program content position place slots = none := by
  induction follows with
  | done => exact .inl taken
  | taken before others ih => exact ih taken
  | @silent frontier last other slots pending successors free goes others ih =>
    rcases ih taken with (rfl | before) | anew
    · refine .inr (.inl ⟨slots, successors, goes, fun successor member => ?_⟩)
      exact others.taken_of_mem (List.mem_append_left _ member)
    · exact .inl before
    · exact .inr anew
  | @waits frontier last other slots pending free stays others ih =>
    rcases ih taken with (rfl | before) | anew
    · refine .inr (.inr ⟨slots, others.prefix_list.subset ?_, stays⟩)
      exact List.mem_append_right _ List.mem_cons_self
    · exact .inl before
    · exact .inr anew

/-- From a live place a live thread is reached, unless the way there was taken up before. -/
theorem exists_isLive (follows : Follows program content position frontier pending last)
    (fresh : ∀ place, frontier.taken place → ¬ Lives program content place position)
    (lives : Lives program content place position) (taken : last.taken place) :
    ∃ thread ∈ last.list, thread.IsLive program content position := by
  induction lives with
  | @accept place position accepts inside =>
    rcases follows.closed taken with before | ⟨slots, successors, goes, -⟩ | ⟨slots, waiting, -⟩
    · exact absurd (.accept accepts inside) (fresh place before)
    · rw [silent_of_accept accepts] at goes
      cases goes
    · exact ⟨_, waiting, .accept accepts inside⟩
  | @silent place position next slots noted successors goes member onward ih =>
    rcases follows.closed taken with before | ⟨others, reached, again, all⟩ | ⟨others, -, stays⟩
    · exact absurd (.silent goes member onward) (fresh place before)
    · obtain ⟨noted, listed⟩ := exists_mem_of_silent goes again member
      exact ih follows fresh (all _ listed)
    · obtain ⟨same, same_eq, -⟩ := exists_silent_of_silent others goes
      rw [stays] at same_eq
      cases same_eq
  | @reads place position next length read onward ih =>
    rcases follows.closed taken with before | ⟨slots, successors, goes, -⟩ | ⟨slots, waiting, -⟩
    · exact absurd (.reads read onward) (fresh place before)
    · rw [reads_of_silent goes] at read
      cases read
    · exact ⟨_, waiting, .reads read onward⟩

end Follows

/-! ## Reading a byte -/

namespace Thread

/-- Where a thread goes on once it has read the byte at a position, and how many bytes it has to
pass over before. -/
def arrives (program : Program) (content : Array UInt8) (position : Nat) (thread : Thread) :
    Option (Nat × Nat) :=
  match thread.delay with
  | delay + 1 => some (thread.place, delay)
  | 0 => (reads program content position thread.place).map fun (next, length) => (next, length - 1)

/-- A match of the thread ends where it stands. -/
abbrev Accepts (program : Program) (thread : Thread) : Prop :=
  thread.delay = 0 ∧ program[thread.place]? = some .accept

/-- The thread does not lead on without reading. -/
def IsSettled (program : Program) (content : Array UInt8) (position : Nat) (thread : Thread) :
    Prop :=
  thread.delay = 0 → silent program content position thread.place thread.slots = none

variable {thread : Thread} {delay : Nat}

theorem advance_eq (thread : Thread) (after : Threads) :
    thread.advance program content position after =
      match thread.arrives program content position with
      | none => after
      | some (next, 0) => after.enter program content (position + 1) next thread.slots
      | some (next, delay + 1) => after.push ⟨next, delay + 1, thread.slots⟩ := by
  obtain ⟨place, delay, slots⟩ := thread
  rcases delay with - | - | delay
  · simp only [advance, arrives, reads]
    rcases program[place]? with - | instruction
    · rfl
    · cases instruction with
      | look | save | branch | accept => rfl
      | exactly value next | byte set next =>
        simp only
        split <;> rfl
      | scalar set next =>
        simp only
        rcases scalar : Utf8.scalarAt? content position with - | ⟨c, length⟩
        · rfl
        · have positive := length_pos_of_scalarAt? scalar
          obtain ⟨length, rfl⟩ := Nat.exists_eq_add_one.mpr positive
          simp only
          split
          · cases length <;> simp [Threads.push]
          · rfl
  · rfl
  · rfl

theorem Accepts.isLive (accepts : thread.Accepts program) (inside : position ≤ content.size) :
    thread.IsLive program content position := by
  rw [IsLive, accepts.1]
  exact .accept accepts.2 inside

theorem isLive_iff_of_arrives
    (arrives : thread.arrives program content position = some (next, delay)) :
    thread.IsLive program content position ↔ Lives program content next (position + 1 + delay) := by
  obtain ⟨place, waiting, slots⟩ := thread
  cases waiting with
  | zero =>
    obtain ⟨⟨_, length⟩, read, same⟩ := Option.map_eq_some_iff.mp arrives
    cases same
    have positive := length_pos_of_reads read
    have onward : position + 1 + (length - 1) = position + length := by omega
    rw [onward]
    refine ⟨fun lives => ?_, .reads read⟩
    cases lives with
    | accept accepts =>
      rw [reads_of_accept accepts] at read
      cases read
    | silent goes =>
      change reads program content (position + 0) place = _ at read
      rw [reads_of_silent goes] at read
      cases read
    | reads again onward =>
      cases read.symm.trans again
      exact onward
  | succ waiting =>
    cases arrives
    rw [IsLive, Nat.add_comm delay 1, ← Nat.add_assoc]

/-- A live thread that does not lead on without reading either accepts or reads on. -/
theorem IsLive.exists_arrives (lives : thread.IsLive program content position)
    (settled : thread.IsSettled program content position) (goes : ¬ thread.Accepts program) :
    ∃ next delay, thread.arrives program content position = some (next, delay) := by
  obtain ⟨place, waiting, slots⟩ := thread
  cases waiting with
  | zero =>
    cases lives with
    | accept accepts => exact absurd ⟨rfl, accepts⟩ goes
    | silent goes =>
      obtain ⟨same, same_eq, -⟩ := exists_silent_of_silent slots goes
      cases (settled rfl).symm.trans same_eq
    | @reads _ _ next length read onward =>
      change reads program content position place = some (next, length) at read
      exact ⟨next, length - 1, by simp [arrives, read]⟩
  | succ waiting => exact ⟨place, waiting, rfl⟩

end Thread

/-- A thread reads the byte at a position. -/
inductive Advances (program : Program) (content : Array UInt8) (position : Nat)
    (frontier : Frontier) (thread : Thread) : Frontier → Prop where
  | stops (arrives : thread.arrives program content position = none) :
      Advances program content position frontier thread frontier
  | enters {next : Nat} {last : Frontier}
      (arrives : thread.arrives program content position = some (next, 0))
      (follows : Follows program content (position + 1) frontier [(next, thread.slots)] last) :
      Advances program content position frontier thread last
  | passes {next delay : Nat}
      (arrives : thread.arrives program content position = some (next, delay + 1)) :
      Advances program content position frontier thread
        (frontier.push ⟨next, delay + 1, thread.slots⟩)

/-- Threads read the byte at a position until a match of one of them ends there. -/
inductive AdvancesAll (program : Program) (content : Array UInt8) (position : Nat) :
    Frontier → List Thread → Frontier → Option Slots → Prop where
  | done {frontier : Frontier} : AdvancesAll program content position frontier [] frontier none
  | accepts {frontier : Frontier} {thread : Thread} {threads : List Thread}
      (accepts : thread.Accepts program) :
      AdvancesAll program content position frontier (thread :: threads) frontier
        (some thread.slots)
  | onward {frontier middle last : Frontier} {thread : Thread} {threads : List Thread}
      {ended : Option Slots} (goes : ¬ thread.Accepts program)
      (advances : Advances program content position frontier thread middle)
      (others : AdvancesAll program content position middle threads last ended) :
      AdvancesAll program content position frontier (thread :: threads) last ended

namespace Advances

variable {frontier last other : Frontier} {thread : Thread}

theorem unique (advances : Advances program content position frontier thread last)
    (again : Advances program content position frontier thread other) : other = last := by
  cases advances with
  | stops arrives =>
    cases again with
    | stops => rfl
    | enters same | passes same =>
      rw [arrives] at same
      cases same
  | enters arrives follows =>
    cases again with
    | enters same others =>
      rw [arrives] at same
      cases same
      exact follows.unique others
    | stops same | passes same =>
      rw [arrives] at same
      cases same
  | passes arrives =>
    cases again with
    | passes same =>
      rw [arrives] at same
      cases same
      rfl
    | stops same | enters same =>
      rw [arrives] at same
      cases same

theorem prefix_list (advances : Advances program content position frontier thread last) :
    frontier.list <+: last.list := by
  cases advances with
  | stops => exact List.prefix_rfl
  | enters arrives follows => exact follows.prefix_list
  | passes => exact List.prefix_append _ _

theorem live_of_not_isLive (advances : Advances program content position frontier thread last)
    (dead : ¬ thread.IsLive program content position) :
    last.live program content (position + 1) = frontier.live program content (position + 1) := by
  cases advances with
  | stops => rfl
  | enters arrives follows =>
    have nothing : Follows program content (position + 1)
        (frontier.live program content (position + 1)) [(_, thread.slots)]
        (frontier.live program content (position + 1)) :=
      .taken (Or.inr fun lives => dead ((Thread.isLive_iff_of_arrives arrives).mpr lives)) .done
    exact nothing.unique follows.live
  | passes arrives =>
    refine Frontier.live_push_of_not_isLive fun lives => ?_
    exact dead ((Thread.isLive_iff_of_arrives arrives).mpr lives)

theorem live_of_isLive (advances : Advances program content position frontier thread last)
    (lives : thread.IsLive program content position) :
    Advances program content position (frontier.live program content (position + 1)) thread
      (last.live program content (position + 1)) := by
  cases advances with
  | stops arrives => exact .stops arrives
  | enters arrives follows => exact .enters arrives follows.live
  | @passes next delay arrives =>
    have onward : Thread.IsLive program content (position + 1) ⟨next, delay + 1, thread.slots⟩ :=
      (Thread.isLive_iff_of_arrives arrives).mp lives
    rw [Frontier.live_push_of_isLive onward]
    exact .passes arrives

end Advances

namespace AdvancesAll

variable {frontier last other : Frontier} {threads : List Thread} {ended otherEnded : Option Slots}

theorem unique (advances : AdvancesAll program content position frontier threads last ended)
    (again : AdvancesAll program content position frontier threads other otherEnded) :
    other = last ∧ otherEnded = ended := by
  induction advances with
  | done =>
    cases again
    exact ⟨rfl, rfl⟩
  | accepts accepts =>
    cases again with
    | accepts => exact ⟨rfl, rfl⟩
    | onward goes => exact absurd accepts goes
  | onward goes advances others ih =>
    cases again with
    | accepts accepts => exact absurd accepts goes
    | onward _ same later =>
      rw [advances.unique same] at later
      exact ih later

theorem prefix_list (advances : AdvancesAll program content position frontier threads last ended) :
    frontier.list <+: last.list := by
  induction advances with
  | done | accepts => exact List.prefix_rfl
  | onward goes advances others ih => exact advances.prefix_list.trans ih

/-- Dead threads make no difference to the live ones. -/
theorem live (inside : position ≤ content.size)
    (advances : AdvancesAll program content position frontier threads last ended) :
    AdvancesAll program content position (frontier.live program content (position + 1))
      (liveOf program content position threads)
      (last.live program content (position + 1)) ended := by
  induction advances with
  | done => exact .done
  | accepts accepts =>
    rw [liveOf_cons_of_isLive _ (accepts.isLive inside)]
    exact .accepts accepts
  | @onward frontier middle last thread threads ended goes advances others ih =>
    by_cases lives : thread.IsLive program content position
    · rw [liveOf_cons_of_isLive _ lives]
      exact .onward goes (advances.live_of_isLive lives) ih
    · rw [liveOf_cons_of_not_isLive _ lives]
      rwa [advances.live_of_not_isLive lives] at ih

end AdvancesAll

end Emend.Pattern
