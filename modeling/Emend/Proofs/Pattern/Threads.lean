/-
# What threads can reach

An instruction either leads on without reading or waits for bytes.  Where a match can still be
reached from a place, the place is live; a dead place leads to dead places only.  The threads that
are added at a position are followed here as a relation without a bound on the steps, and dead
places are shown to make no difference to the live threads: they could as well have been taken up
before.
-/

import Emend.Pattern.Search
import Mathlib.Data.List.Basic

namespace Emend.Pattern

variable {program : Program} {content : Array UInt8} {position place next : Nat} {slots : Slots}

/-! ## Instructions -/

/-- Where a search goes on from a place without reading, the preferred way first, and what it has
noted then; `none` if it waits there. -/
def silent (program : Program) (content : Array UInt8) (position place : Nat) (slots : Slots) :
    Option (List (Nat × Slots)) :=
  match program[place]? with
  | none => some []
  | some (.look kind next) => some (if kind.holds content position then [(next, slots)] else [])
  | some (.save slot next) => some [(next, slots.setIfInBounds slot (some position))]
  | some (.branch first second) => some [(first, slots), (second, slots)]
  | some _ => none

/-- Where a search goes on from a place by reading, and how many bytes it reads. -/
def reads (program : Program) (content : Array UInt8) (position place : Nat) : Option (Nat × Nat) :=
  match program[place]? with
  | some (.exactly value next) => if content[position]? = some value then some (next, 1) else none
  | some (.byte set next) =>
    if (content[position]?).any fun b => set.contains b.toNat then some (next, 1) else none
  | some (.scalar set next) =>
    match Utf8.scalarAt? content position with
    | some (c, length) => if set.contains c.toNat then some (next, length) else none
    | none => none
  | _ => none

theorem length_silent_le {successors : List (Nat × Slots)}
    (goes : silent program content position place slots = some successors) :
    successors.length ≤ 2 := by
  unfold silent at goes
  split at goes
  all_goals cases goes
  · simp
  · split <;> simp
  · simp
  · simp

/-- Where a search goes on does not depend on what it has noted. -/
theorem exists_silent_of_silent {successors : List (Nat × Slots)} (others : Slots)
    (goes : silent program content position place slots = some successors) :
    ∃ same, silent program content position place others = some same ∧
      same.map Prod.fst = successors.map Prod.fst := by
  unfold silent at goes ⊢
  split at goes
  all_goals cases goes
  · exact ⟨_, rfl, rfl⟩
  · refine ⟨_, rfl, ?_⟩
    split <;> rfl
  · exact ⟨_, rfl, rfl⟩
  · exact ⟨_, rfl, rfl⟩

theorem exists_mem_of_silent {successors others : List (Nat × Slots)} {first second noted : Slots}
    (goes : silent program content position place first = some successors)
    (again : silent program content position place second = some others)
    (member : (next, noted) ∈ successors) : ∃ noted, (next, noted) ∈ others := by
  obtain ⟨same, same_eq, places_eq⟩ := exists_silent_of_silent second goes
  rw [again] at same_eq
  obtain rfl := Option.some_inj.mp same_eq
  have listed : next ∈ others.map Prod.fst := by
    rw [places_eq]
    exact List.mem_map_of_mem member
  obtain ⟨other, other_mem, rfl⟩ := List.mem_map.mp listed
  exact ⟨other.2, other_mem⟩

theorem silent_of_accept (accepts : program[place]? = some .accept) :
    silent program content position place slots = none := by
  simp [silent, accepts]

theorem reads_of_accept (accepts : program[place]? = some .accept) :
    reads program content position place = none := by
  simp [reads, accepts]

theorem reads_of_silent {successors : List (Nat × Slots)}
    (goes : silent program content position place slots = some successors) :
    reads program content position place = none := by
  unfold silent at goes
  unfold reads
  split at goes <;> simp_all

/-- An encoding has a byte. -/
theorem length_pos_of_scalarAt? {c : Char} {length : Nat}
    (read : Utf8.scalarAt? content position = some (c, length)) : 0 < length := by
  unfold Utf8.scalarAt? Utf8.scalarOf at read
  grind

theorem length_pos_of_reads {length : Nat}
    (read : reads program content position place = some (next, length)) : 0 < length := by
  unfold reads at read
  split at read
  · split at read
    · simp only [Option.some.injEq, Prod.mk.injEq] at read
      omega
    · cases read
  · split at read
    · simp only [Option.some.injEq, Prod.mk.injEq] at read
      omega
    · cases read
  · split at read
    · rename_i scalar
      split at read
      · simp only [Option.some.injEq, Prod.mk.injEq] at read
        rw [← read.2]
        exact length_pos_of_scalarAt? scalar
      · cases read
    · cases read
  · cases read

/-- A match can be reached from a place at a position. -/
inductive Lives (program : Program) (content : Array UInt8) : (place position : Nat) → Prop where
  | accept {place position : Nat} (accepts : program[place]? = some .accept)
      (inside : position ≤ content.size) : Lives program content place position
  | silent {place position next : Nat} {slots noted : Slots} {successors : List (Nat × Slots)}
      (goes : silent program content position place slots = some successors)
      (member : (next, noted) ∈ successors) (onward : Lives program content next position) :
      Lives program content place position
  | reads {place position next length : Nat}
      (read : reads program content position place = some (next, length))
      (onward : Lives program content next (position + length)) :
      Lives program content place position

theorem Lives.le_size (lives : Lives program content place position) : position ≤ content.size := by
  induction lives with
  | accept accepts inside => exact inside
  | silent goes member onward ih => exact ih
  | reads read onward ih => omega

/-! ## Adding threads -/

/-- The threads at a position and which places count as taken up. -/
@[ext]
structure Frontier where
  taken : Nat → Prop
  list : List Thread

namespace Frontier

/-- Take up a place. -/
def take (frontier : Frontier) (place : Nat) : Frontier :=
  { frontier with taken := fun other => other = place ∨ frontier.taken other }

/-- Add a thread. -/
def push (frontier : Frontier) (thread : Thread) : Frontier :=
  { frontier with list := frontier.list ++ [thread] }

@[simp] theorem push_list (frontier : Frontier) (thread : Thread) :
    (frontier.push thread).list = frontier.list ++ [thread] := rfl

end Frontier

/-- The frontier of the threads of a search. -/
def Threads.frontier (threads : Threads) : Frontier :=
  ⟨fun place => threads.taken[place]? ≠ some false, threads.list.toList⟩

/-- Threads are added from places that are reached without reading, the first of which is
preferred. -/
inductive Follows (program : Program) (content : Array UInt8) (position : Nat) :
    Frontier → List (Nat × Slots) → Frontier → Prop where
  | done {frontier : Frontier} : Follows program content position frontier [] frontier
  | taken {frontier last : Frontier} {place : Nat} {slots : Slots} {pending : List (Nat × Slots)}
      (before : frontier.taken place)
      (others : Follows program content position frontier pending last) :
      Follows program content position frontier ((place, slots) :: pending) last
  | silent {frontier last : Frontier} {place : Nat} {slots : Slots}
      {pending successors : List (Nat × Slots)} (free : ¬ frontier.taken place)
      (goes : silent program content position place slots = some successors)
      (others : Follows program content position (frontier.take place) (successors ++ pending)
        last) :
      Follows program content position frontier ((place, slots) :: pending) last
  | waits {frontier last : Frontier} {place : Nat} {slots : Slots} {pending : List (Nat × Slots)}
      (free : ¬ frontier.taken place)
      (stays : Pattern.silent program content position place slots = none)
      (others : Follows program content position ((frontier.take place).push ⟨place, 0, slots⟩)
        pending last) :
      Follows program content position frontier ((place, slots) :: pending) last

namespace Threads

/-- Take up a place. -/
def take (threads : Threads) (place : Nat) : Threads :=
  { threads with taken := threads.taken.setIfInBounds place true }

/-- Add a thread. -/
def push (threads : Threads) (thread : Thread) : Threads :=
  { threads with list := threads.list.push thread }

/-- How many places have not been taken up. -/
def free (threads : Threads) : Nat := threads.taken.toList.count false

@[simp] theorem frontier_take (threads : Threads) (place : Nat) :
    (threads.take place).frontier = threads.frontier.take place := by
  ext other
  · simp only [frontier, take, Frontier.take, Array.getElem?_setIfInBounds]
    by_cases same : place = other
    · subst same
      by_cases inside : place < threads.taken.size <;> simp [inside]
    · simp [same, Ne.symm same]
  · rfl

@[simp] theorem frontier_push (threads : Threads) (thread : Thread) :
    (threads.push thread).frontier = threads.frontier.push thread := by
  simp [frontier, push, Frontier.push]

theorem free_take {threads : Threads} (untaken : threads.taken[place]? = some false) :
    (threads.take place).free + 1 = threads.free := by
  obtain ⟨inside, value⟩ := Array.getElem?_eq_some_iff.mp untaken
  have positive : 0 < threads.taken.toList.count false :=
    List.count_pos_iff.mpr (by rw [Array.mem_toList_iff, ← value]; exact Array.getElem_mem inside)
  have length : place < threads.taken.toList.length := by simpa using inside
  have value_eq : threads.taken.toList[place] = false := by simpa using value
  have changed : (threads.take place).free = threads.free - 1 := by
    rw [free, take, Array.toList_setIfInBounds, List.count_set length, value_eq]
    rfl
  rw [free] at changed ⊢
  rw [free] at changed ⊢
  omega

@[simp] theorem free_push (threads : Threads) (thread : Thread) :
    (threads.push thread).free = threads.free := rfl

theorem free_le_size (threads : Threads) : threads.free ≤ threads.taken.size := by
  simpa [free] using List.count_le_length (a := false) (l := threads.taken.toList)

/-- One step of following the places to go on from. -/
theorem follow_cons (threads : Threads) (place : Nat) (slots : Slots)
    (pending : List (Nat × Slots)) (fuel : Nat) :
    threads.follow program content position ((place, slots) :: pending) (fuel + 1) =
      if threads.taken[place]? ≠ some false then
        threads.follow program content position pending fuel
      else
        match silent program content position place slots with
        | some successors =>
          (threads.take place).follow program content position (successors ++ pending) fuel
        | none =>
          ((threads.take place).push ⟨place, 0, slots⟩).follow program content position pending
            fuel := by
  rw [follow]
  split
  · rfl
  · unfold silent
    rcases program[place]? with - | instruction
    · rfl
    · cases instruction with
      | look kind next =>
        simp only
        split <;> rfl
      | exactly | byte | scalar | save | branch | accept => rfl

/-- The threads that a search adds are those that are reached. -/
theorem follows_follow (threads : Threads) (pending : List (Nat × Slots)) (fuel : Nat)
    (enough : 2 * threads.free + pending.length ≤ fuel) :
    Follows program content position threads.frontier pending
      (threads.follow program content position pending fuel).frontier := by
  induction fuel generalizing threads pending with
  | zero =>
    obtain rfl : pending = [] := List.length_eq_zero_iff.mp (by omega)
    exact .done
  | succ fuel ih =>
    cases pending with
    | nil => exact .done
    | cons first pending =>
      obtain ⟨place, slots⟩ := first
      rw [List.length_cons] at enough
      rw [follow_cons]
      split
      · rename_i before
        exact .taken before (ih threads pending (by omega))
      · rename_i untaken
        rw [not_not] at untaken
        have fewer := free_take untaken
        have free : ¬ threads.frontier.taken place := not_not.mpr untaken
        split
        · rename_i successors goes
          have short := length_silent_le goes
          refine .silent free goes ?_
          rw [← frontier_take]
          exact ih _ _ (by rw [List.length_append]; omega)
        · rename_i stays
          refine .waits free stays ?_
          rw [← frontier_take, ← frontier_push]
          exact ih _ _ (by rw [free_push]; omega)

@[simp] theorem size_taken_follow (threads : Threads) (pending : List (Nat × Slots)) (fuel : Nat) :
    (threads.follow program content position pending fuel).taken.size = threads.taken.size := by
  induction fuel generalizing threads pending with
  | zero => rfl
  | succ fuel ih =>
    cases pending with
    | nil => rfl
    | cons first pending =>
      obtain ⟨place, slots⟩ := first
      rw [follow_cons]
      split
      · rw [ih]
      · split <;> simp [ih, take, push]

/-- The threads that enter at a place are those that are reached from it. -/
theorem follows_enter (content : Array UInt8) (position : Nat) {threads : Threads}
    (fits : threads.taken.size = program.size) (place : Nat) (slots : Slots) :
    Follows program content position threads.frontier [(place, slots)]
      (threads.enter program content position place slots).frontier := by
  have few := threads.free_le_size
  exact threads.follows_follow _ _ (by rw [List.length_singleton]; omega)

end Threads

namespace Follows

variable {frontier last other : Frontier} {pending : List (Nat × Slots)}

theorem unique (follows : Follows program content position frontier pending last)
    (again : Follows program content position frontier pending other) : other = last := by
  induction follows with
  | done => cases again; rfl
  | taken before others ih =>
    cases again with
    | taken _ later => exact ih later
    | silent free => exact absurd before free
    | waits free => exact absurd before free
  | silent free goes others ih =>
    cases again with
    | taken before => exact absurd before free
    | silent _ same later =>
      rw [goes] at same
      obtain rfl := Option.some_inj.mp same
      exact ih later
    | waits _ stays =>
      rw [goes] at stays
      cases stays
  | waits free stays others ih =>
    cases again with
    | taken before => exact absurd before free
    | silent _ goes =>
      rw [stays] at goes
      cases goes
    | waits _ _ later => exact ih later

/-- Places that have been taken up before add nothing. -/
theorem of_taken {first : List (Nat × Slots)} (all : ∀ entry ∈ first, frontier.taken entry.1)
    (follows : Follows program content position frontier (first ++ pending) last) :
    Follows program content position frontier pending last := by
  induction first with
  | nil => exact follows
  | cons entry first ih =>
    have before := all entry List.mem_cons_self
    cases follows with
    | taken _ others => exact ih (fun entry member => all entry (List.mem_cons_of_mem _ member)) others
    | silent free => exact absurd before free
    | waits free => exact absurd before free

end Follows

end Emend.Pattern
