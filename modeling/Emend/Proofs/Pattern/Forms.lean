/-
# Forms that keep a property

Sequences, choices and repetitions are brought into their simplest form while a pattern is given its
meaning.  A property that an expression has exactly when its parts have it is kept by all of these
forms, as long as what takes the place of a choice between single characters has it too.
-/

import Emend.Pattern.Choice
import Mathlib.Data.List.Basic

namespace Emend.Pattern

namespace Expr

/-- A property that passes from expressions to their parts and back. -/
structure IsHereditary (P : Expr → Prop) : Prop where
  empty : P .empty
  impossible : P .impossible
  append {first second : Bytes} :
    P (.literal first) → P (.literal second) → P (.literal (first ++ second))
  seq_iff {first second : Expr} : P (.seq first second) ↔ P first ∧ P second
  alt_iff {first second : Expr} : P (.alt first second) ↔ P first ∧ P second
  rep {least : Nat} {most : Option Nat} {greedy : Bool} {part : Expr} :
    P part → P (.rep least most greedy part)
  joined {branches : List Expr} {set : Expr} :
    (∀ branch ∈ branches, P branch) → joined? branches = some set → P set

namespace IsHereditary

variable {P : Expr → Prop} (hereditary : IsHereditary P)
include hereditary

/-! ## Sequences and repetitions -/

theorem andThen {first second : Expr} (firstHolds : P first) (secondHolds : P second) :
    P (first.andThen second) := by
  fun_induction Expr.andThen first second with
  | case1 second => exact secondHolds
  | case2 first rest second ih =>
    obtain ⟨firstHolds, restHolds⟩ := hereditary.seq_iff.mp firstHolds
    exact hereditary.seq_iff.mpr ⟨firstHolds, ih restHolds secondHolds⟩
  | case3 first => exact firstHolds
  | case4 a b => exact hereditary.append firstHolds secondHolds
  | case5 a b rest =>
    obtain ⟨nextHolds, restHolds⟩ := hereditary.seq_iff.mp secondHolds
    exact hereditary.seq_iff.mpr ⟨hereditary.append firstHolds nextHolds, restHolds⟩
  | case6 first second => exact hereditary.seq_iff.mpr ⟨firstHolds, secondHolds⟩

theorem ofReverse {parts : List Expr} (all : ∀ part ∈ parts, P part) :
    P (Expr.ofReverse parts) := by
  apply List.foldlRecOn (motive := P) parts _ hereditary.empty
  intro rest restHolds part member
  exact hereditary.andThen (all part member) restHolds

theorem repeated {part : Expr} (holds : P part) (least : Nat) (most : Option Nat) (greedy : Bool) :
    P (Expr.repeated least most greedy part) := by
  unfold Expr.repeated
  split
  split
  · exact hereditary.empty
  · split
    · exact holds
    · exact hereditary.rep holds

/-! ## Choices -/

theorem of_mem_branches {expr branch : Expr} (holds : P expr) (member : branch ∈ expr.branches) :
    P branch := by
  fun_induction Expr.branches expr with
  | case1 first rest ih =>
    obtain ⟨firstHolds, restHolds⟩ := hereditary.alt_iff.mp holds
    rcases List.mem_cons.mp member with rfl | member
    · exact firstHolds
    · exact ih restHolds member
  | case2 expr => rwa [List.mem_singleton.mp member]

theorem of_mem_flatMap_branches {choices : List Expr} (all : ∀ choice ∈ choices, P choice) :
    ∀ branch ∈ choices.flatMap branches, P branch := by
  intro branch member
  obtain ⟨choice, listed, member⟩ := List.mem_flatMap.mp member
  exact hereditary.of_mem_branches (all choice listed) member

theorem of_mem_parts {expr part : Expr} (holds : P expr) (member : part ∈ expr.parts) :
    P part := by
  fun_induction Expr.parts expr with
  | case1 first second rest ih =>
    obtain ⟨firstHolds, restHolds⟩ := hereditary.seq_iff.mp holds
    rcases List.mem_cons.mp member with rfl | member
    · exact firstHolds
    · exact ih restHolds member
  | case2 first last =>
    obtain ⟨firstHolds, lastHolds⟩ := hereditary.seq_iff.mp holds
    rcases List.mem_pair.mp member with rfl | rfl
    · exact firstHolds
    · exact lastHolds
  | case3 => cases member

theorem chooseFrom {branches : List Expr} (all : ∀ branch ∈ branches, P branch) :
    P (Expr.chooseFrom branches) := by
  unfold Expr.chooseFrom
  split
  · rename_i joined
    exact hereditary.joined all joined
  · exact hereditary.impossible
  · rename_i last before _ reversed
    have listed : ∀ branch ∈ last :: before, P branch := by
      intro branch member
      rw [← reversed] at member
      exact all branch (List.mem_reverse.mp member)
    apply List.foldlRecOn (motive := P) before _ (listed last List.mem_cons_self)
    intro rest restHolds branch member
    exact hereditary.alt_iff.mpr ⟨listed branch (List.mem_cons_of_mem _ member), restHolds⟩

omit hereditary in
theorem mem_of_mem_commonStart {part : Expr} {first second : List Expr}
    (member : part ∈ commonStart first second) : part ∈ first := by
  fun_induction commonStart first second with
  | case1 a first second ih =>
    rcases List.mem_cons.mp member with rfl | member
    · exact List.mem_cons_self
    · exact List.mem_cons_of_mem _ (ih member)
  | case2 => cases member
  | case3 => cases member

theorem of_mem_sharedStart {choices : List Expr} (all : ∀ choice ∈ choices, P choice) :
    ∀ part ∈ sharedStart choices, P part := by
  unfold sharedStart
  split
  · simp
  · rename_i first rest
    apply List.foldlRecOn (motive := fun shared => ∀ part ∈ shared, P part) rest
    · intro part member
      exact hereditary.of_mem_parts (all first List.mem_cons_self) member
    · intro shared sharedHolds branch _ part member
      exact sharedHolds part (mem_of_mem_commonStart member)

/-- The simplest form of a choice has what all its branches have. -/
theorem ofBranches {choices : List Expr} (all : ∀ choice ∈ choices, P choice) :
    P (Expr.ofBranches choices) := by
  have branchesHold := hereditary.of_mem_flatMap_branches all
  unfold Expr.ofBranches
  extract_lets flat
  split
  · exact hereditary.chooseFrom branchesHold
  · extract_lets ends
    apply hereditary.ofReverse
    intro part member
    rcases List.mem_cons.mp member with rfl | member
    · apply hereditary.chooseFrom
      apply hereditary.of_mem_flatMap_branches
      intro last member
      obtain ⟨branch, listed, rfl⟩ := List.mem_map.mp member
      apply hereditary.ofReverse
      intro part member
      apply hereditary.of_mem_parts (branchesHold branch listed)
      exact List.mem_of_mem_drop (List.mem_reverse.mp member)
    · exact hereditary.of_mem_sharedStart branchesHold part (List.mem_reverse.mp member)

end IsHereditary

theorem isSome_mapM {α : Type} {read : Expr → Option α} {branches : List Expr} :
    (branches.mapM read).isSome ↔ ∀ branch ∈ branches, (read branch).isSome := by
  induction branches with
  | nil => simp
  | cons branch branches ih =>
    rw [List.forall_mem_cons, ← ih, List.mapM_cons]
    cases read branch <;> cases branches.mapM read <;> simp

end Expr

end Emend.Pattern
