/-
# The groups of a pattern

The meaning of a pattern has the groups that the pattern has, but for those in parts that are
repeated no times at all.  The forms that simplify it add none and lose none.
-/

import Emend.Pattern.Meaning
import Emend.Proofs.Pattern.Forms
import Emend.Proofs.Pattern.Matching
import Emend.Proofs.Traversal

namespace Emend.Pattern

variable {index : Nat}

/-! ## Forms keep the groups -/

namespace Expr

variable {first second expr : Expr} {exprs : List Expr}

theorem groups_ofScalars (set : Unicode.Ranges) : (ofScalars set).groups = [] := by
  unfold ofScalars
  split
  · rfl
  · split <;> rfl
  · rfl

theorem groups_ofByteSet (set : Unicode.Ranges) : (ofByteSet set).groups = [] := by
  unfold ofByteSet
  split
  · split <;> rfl
  · rfl

theorem mem_groups_andThen :
    index ∈ (first.andThen second).groups ↔ index ∈ first.groups ∨ index ∈ second.groups := by
  fun_induction Expr.andThen first second with
  | case1 second => simp [groups]
  | case2 first rest second ih => simp [groups, ih, or_assoc]
  | case3 first => simp [groups]
  | case4 a b => simp [groups]
  | case5 a b rest => simp [groups]
  | case6 first second => simp [groups]

theorem mem_groups_ofReverse :
    index ∈ (ofReverse exprs).groups ↔ ∃ part ∈ exprs, index ∈ part.groups := by
  have after (rest : Expr) :
      index ∈ (exprs.foldl (fun rest part => andThen part rest) rest).groups ↔
        index ∈ rest.groups ∨ ∃ part ∈ exprs, index ∈ part.groups := by
    induction exprs generalizing rest with
    | nil => simp
    | cons part parts ih => simp [ih, mem_groups_andThen, or_assoc, or_left_comm]
  rw [ofReverse, after]
  simp [groups]

theorem mem_groups_repeated {least : Nat} {most : Option Nat} {greedy : Bool} :
    index ∈ (repeated least most greedy expr).groups ↔ most ≠ some 0 ∧ index ∈ expr.groups := by
  unfold repeated
  split
  rename_i fewest limit counts_eq
  have zero_iff : limit = some 0 ↔ most = some 0 := by
    split at counts_eq
    · cases counts_eq
      cases most <;> simp
    · cases counts_eq
      rfl
  split
  · rename_i zero
    simp [groups, zero_iff.mp zero]
  · rename_i positive
    split <;> simp [groups, zero_iff.not.mp positive]

theorem mem_groups_branches :
    index ∈ expr.groups ↔ ∃ branch ∈ expr.branches, index ∈ branch.groups := by
  fun_induction Expr.branches expr with
  | case1 first rest ih => simp [groups, ih]
  | case2 expr => simp

theorem mem_groups_flatMap_branches :
    (∃ branch ∈ exprs.flatMap branches, index ∈ branch.groups) ↔
      ∃ expr ∈ exprs, index ∈ expr.groups := by
  constructor
  · rintro ⟨branch, listed, inside⟩
    obtain ⟨expr, listed, member⟩ := List.mem_flatMap.mp listed
    exact ⟨expr, listed, mem_groups_branches.mpr ⟨branch, member, inside⟩⟩
  · rintro ⟨expr, listed, inside⟩
    obtain ⟨branch, member, inside⟩ := mem_groups_branches.mp inside
    exact ⟨branch, List.mem_flatMap.mpr ⟨expr, listed, member⟩, inside⟩

theorem mem_groups_parts (nonempty : expr.parts ≠ []) :
    index ∈ expr.groups ↔ ∃ part ∈ expr.parts, index ∈ part.groups := by
  fun_induction Expr.parts expr with
  | case1 first second rest ih =>
    have others := ih (by cases rest <;> simp [parts])
    rw [groups, List.mem_append, others]
    simp
  | case2 first last => simp [groups]
  | case3 => exact absurd rfl nonempty

/-- A set has no groups, and none of the branches whose place it takes has any. -/
theorem groups_of_joined? {set : Expr} (joined : joined? exprs = some set) :
    set.groups = [] ∧ ∀ branch ∈ exprs, branch.groups = [] := by
  have every {α : Type} {read : Expr → Option α} {members : List α}
      (reads : exprs.mapM read = some members)
      (simple : ∀ {branch}, (read branch).isSome → branch.groups = []) :
      ∀ branch ∈ exprs, branch.groups = [] :=
    fun branch member => simple (isSome_mapM.mp (Option.isSome_of_eq_some reads) branch member)
  simp only [joined?, Option.orElse_eq_orElse, Option.orElse_eq_or, Option.or_eq_some_iff,
    Option.map_eq_some_iff] at joined
  obtain ⟨_, singles, rfl⟩ | ⟨-, ⟨_, singles, rfl⟩ | ⟨-, ⟨_, sets, rfl⟩ |
    ⟨-, _, sets, rfl⟩⟩⟩ := joined
  · refine ⟨groups_ofScalars _, every singles fun {branch} single => ?_⟩
    cases branch <;> first | rfl | cases single
  · refine ⟨groups_ofByteSet _, every singles fun {branch} single => ?_⟩
    cases branch <;> first | rfl | cases single
  · refine ⟨groups_ofScalars _, every sets fun {branch} set => ?_⟩
    cases branch <;> first | rfl | cases set
  · refine ⟨groups_ofByteSet _, every sets fun {branch} set => ?_⟩
    cases branch <;> first | rfl | cases set

theorem mem_groups_chooseFrom :
    index ∈ (chooseFrom exprs).groups ↔ ∃ branch ∈ exprs, index ∈ branch.groups := by
  unfold chooseFrom
  split
  · rename_i set _ joined
    obtain ⟨none_here, none_there⟩ := groups_of_joined? joined
    rw [none_here]
    constructor
    · simp
    · rintro ⟨branch, listed, inside⟩
      rw [none_there branch listed] at inside
      cases inside
  · rename_i reversed
    rw [List.reverse_eq_nil_iff.mp reversed]
    simp [impossible, groups]
  · rename_i last before _ reversed
    have after (rest : Expr) (branches : List Expr) :
        index ∈ (branches.foldl (fun rest branch => alt branch rest) rest).groups ↔
          index ∈ rest.groups ∨ ∃ branch ∈ branches, index ∈ branch.groups := by
      induction branches generalizing rest with
      | nil => simp
      | cons branch branches ih => simp [ih, groups, or_assoc, or_left_comm]
    rw [after, List.reverse_eq_cons_iff.mp reversed]
    simp [or_comm]

theorem commonStart_prefix (first second : List Expr) :
    commonStart first second <+: first ∧ commonStart first second <+: second := by
  fun_induction commonStart first second with
  | case1 a first second ih => simpa using ih
  | case2 => exact ⟨List.nil_prefix, List.nil_prefix⟩
  | case3 => exact ⟨List.nil_prefix, List.nil_prefix⟩

/-- All branches start with what they share. -/
theorem sharedStart_prefix (member : expr ∈ exprs) : sharedStart exprs <+: expr.parts := by
  cases exprs with
  | nil => cases member
  | cons first rest =>
    have after (shared : List Expr) :
        rest.foldl (fun shared branch => commonStart shared branch.parts) shared <+: shared ∧
          ∀ branch ∈ rest,
            rest.foldl (fun shared branch => commonStart shared branch.parts) shared <+:
              branch.parts := by
      clear member
      induction rest generalizing shared with
      | nil => simp
      | cons branch rest ih =>
        obtain ⟨shorter, others⟩ := ih (commonStart shared branch.parts)
        obtain ⟨left, right⟩ := commonStart_prefix shared branch.parts
        exact ⟨shorter.trans left, List.forall_mem_cons.mpr ⟨shorter.trans right, others⟩⟩
    rcases List.mem_cons.mp member with rfl | member
    · exact (after _).1
    · exact (after _).2 expr member

theorem mem_groups_ofBranches :
    index ∈ (ofBranches exprs).groups ↔ ∃ branch ∈ exprs, index ∈ branch.groups := by
  rw [← mem_groups_flatMap_branches]
  unfold ofBranches
  extract_lets choices
  split
  · exact mem_groups_chooseFrom
  · rename_i shared nonempty
    extract_lets ends
    have apart {choice : Expr} (listed : choice ∈ choices) :
        index ∈ choice.groups ↔ (∃ part ∈ sharedStart choices, index ∈ part.groups) ∨
          index ∈ (ofReverse (choice.parts.drop (sharedStart choices).length).reverse).groups := by
      obtain ⟨others, parts_eq⟩ := sharedStart_prefix listed
      rw [mem_groups_ofReverse, ← parts_eq, List.drop_left, mem_groups_parts, ← parts_eq]
      · simp [or_and_right, exists_or]
      · rw [← parts_eq]
        exact List.append_ne_nil_of_left_ne_nil nonempty _
    have some_choice : ∃ choice, choice ∈ choices := by
      cases choices_eq : choices with
      | nil =>
        rw [choices_eq] at nonempty
        exact absurd rfl nonempty
      | cons choice _ => exact ⟨choice, List.mem_cons_self⟩
    have in_ends : (∃ branch ∈ ends.flatMap branches, index ∈ branch.groups) ↔ ∃ choice ∈ choices,
        index ∈ (ofReverse (choice.parts.drop (sharedStart choices).length).reverse).groups := by
      rw [mem_groups_flatMap_branches]
      simp [ends]
    rw [mem_groups_ofReverse, List.exists_mem_cons_iff, mem_groups_chooseFrom, in_ends]
    constructor
    · rintro (⟨choice, listed, inside⟩ | ⟨part, listed, inside⟩)
      · exact ⟨choice, listed, (apart listed).mpr (.inr inside)⟩
      · obtain ⟨choice, member⟩ := some_choice
        exact ⟨choice, member, (apart member).mpr (.inl ⟨part, List.mem_reverse.mp listed, inside⟩)⟩
    · rintro ⟨choice, listed, inside⟩
      rcases (apart listed).mp inside with ⟨part, member, inside⟩ | inside
      · exact .inr ⟨part, List.mem_reverse.mpr member, inside⟩
      · exact .inl ⟨choice, listed, inside⟩

end Expr

/-! ## Patterns as they are written -/

mutual

/-- The numbers of the groups whose text is kept, in the order in which they open, with the names
that they have. -/
def Tree.groups : Tree → List (Nat × Option String)
  | .repetition _ _ _ _ part => part.groups
  | .group _ kind part =>
    match kind with
    | .capture index name => (index, name) :: part.groups
    | .plain _ => part.groups
  | .alternation _ parts => Tree.allGroups parts
  | .sequence _ parts => Tree.allGroups parts
  | _ => []

/-- The groups of several parts. -/
def Tree.allGroups : List Tree → List (Nat × Option String)
  | [] => []
  | part :: parts => part.groups ++ Tree.allGroups parts

end

theorem Tree.allGroups_eq_flatMap (parts : List Tree) :
    Tree.allGroups parts = parts.flatMap Tree.groups := by
  induction parts with
  | nil => rfl
  | cons part parts ih => rw [Tree.allGroups, ih, List.flatMap_cons]

mutual

/-- A group can take part in a match: it does not stand in a part that is repeated no times. -/
def Tree.Offers (index : Nat) : Tree → Prop
  | .repetition _ _ most _ part => most ≠ some 0 ∧ part.Offers index
  | .group _ kind part =>
    match kind with
    | .capture other _ => index = other ∨ part.Offers index
    | .plain _ => part.Offers index
  | .alternation _ parts => Tree.AnyOffers index parts
  | .sequence _ parts => Tree.AnyOffers index parts
  | _ => False

/-- The same for several parts. -/
def Tree.AnyOffers (index : Nat) : List Tree → Prop
  | [] => False
  | part :: parts => part.Offers index ∨ Tree.AnyOffers index parts

end

mutual

theorem Tree.mem_groups_of_offers : ∀ {tree : Tree}, tree.Offers index →
    index ∈ tree.groups.map Prod.fst
  | .repetition _ _ _ _ part, offers => by
    rw [Tree.groups]
    exact Tree.mem_groups_of_offers offers.2
  | .group _ (.capture _ _) _, offers => by
    rw [Tree.groups, List.map_cons, List.mem_cons]
    exact offers.imp id Tree.mem_groups_of_offers
  | .group _ (.plain _) part, offers => by
    rw [Tree.groups]
    exact Tree.mem_groups_of_offers offers
  | .alternation _ _, offers => by
    rw [Tree.groups]
    exact Tree.mem_allGroups_of_anyOffers offers
  | .sequence _ _, offers => by
    rw [Tree.groups]
    exact Tree.mem_allGroups_of_anyOffers offers

theorem Tree.mem_allGroups_of_anyOffers : ∀ {parts : List Tree}, Tree.AnyOffers index parts →
    index ∈ (Tree.allGroups parts).map Prod.fst
  | _ :: _, offers => by
    rw [Tree.allGroups, List.map_append, List.mem_append]
    exact offers.imp Tree.mem_groups_of_offers Tree.mem_allGroups_of_anyOffers

end

/-! ## Meaning -/

variable {mode after : Mode} {expr : Expr}

theorem Mode.groups_oneOf (mode : Mode) (set : Unicode.Ranges) : (mode.oneOf set).groups = [] := by
  unfold Mode.oneOf
  split
  · exact Expr.groups_ofScalars set
  · exact Expr.groups_ofByteSet set

theorem Mode.groups_dot {span : Span} (means : mode.dot span = .ok expr) : expr.groups = [] := by
  obtain ⟨set, -, means⟩ := bind_eq_ok_iff.mp means
  cases means
  exact mode.groups_oneOf set

theorem Literal.groups_meaning {lit : Literal} (means : lit.meaning mode = .ok expr) :
    expr.groups = [] := by
  unfold Literal.meaning at means
  split at means
  · obtain ⟨-, -, means⟩ := bind_eq_ok_iff.mp means
    cases means
    rfl
  · split at means
    · cases means
      rfl
    · split at means
      · cases means
        rfl
      · cases means
        exact mode.groups_oneOf _

mutual

/-- The meaning of a pattern has the groups that can take part in a match. -/
theorem Tree.mem_groups_meaningIn {mode after : Mode} {expr : Expr} : ∀ {tree : Tree},
    tree.meaningIn mode = .ok (expr, after) → (index ∈ expr.groups ↔ tree.Offers index)
  | .empty _, means => by
    cases means
    exact List.mem_nil_iff _
  | .flags _ _, means => by
    cases means
    exact List.mem_nil_iff _
  | .literal lit, means => by
    obtain ⟨inner, inner_eq, means⟩ := bind_eq_ok_iff.mp means
    cases means
    rw [Literal.groups_meaning inner_eq]
    exact List.mem_nil_iff _
  | .dot span, means => by
    obtain ⟨inner, inner_eq, means⟩ := bind_eq_ok_iff.mp means
    cases means
    rw [Mode.groups_dot inner_eq]
    exact List.mem_nil_iff _
  | .assertion _ kind, means => by
    cases means
    exact List.mem_nil_iff _
  | .escape _ _ _, means => by
    obtain ⟨set, -, means⟩ := bind_eq_ok_iff.mp means
    cases means
    rw [mode.groups_oneOf set]
    exact List.mem_nil_iff _
  | .bracketed _ _ _, means => by
    obtain ⟨inner, -, means⟩ := bind_eq_ok_iff.mp means
    obtain ⟨set, -, means⟩ := bind_eq_ok_iff.mp means
    cases means
    rw [mode.groups_oneOf set]
    exact List.mem_nil_iff _
  | .repetition _ least most greedy part, means => by
    obtain ⟨⟨inner, _⟩, inner_eq, means⟩ := bind_eq_ok_iff.mp means
    cases means
    rw [Expr.mem_groups_repeated, Tree.mem_groups_meaningIn inner_eq, Tree.Offers]
  | .group _ (.capture other name) part, means => by
    obtain ⟨⟨inner, _⟩, inner_eq, means⟩ := bind_eq_ok_iff.mp means
    cases means
    rw [Expr.groups, List.mem_cons, Tree.mem_groups_meaningIn inner_eq, Tree.Offers]
  | .group _ (.plain _) part, means => by
    obtain ⟨⟨inner, _⟩, inner_eq, means⟩ := bind_eq_ok_iff.mp means
    cases means
    rw [Tree.mem_groups_meaningIn inner_eq, Tree.Offers]
  | .alternation _ parts, means => by
    obtain ⟨⟨exprs, _⟩, exprs_eq, means⟩ := bind_eq_ok_iff.mp means
    cases means
    simp [Expr.mem_groups_ofBranches, Tree.mem_groups_meaningsIn exprs_eq, Tree.Offers]
  | .sequence _ parts, means => by
    obtain ⟨⟨exprs, _⟩, exprs_eq, means⟩ := bind_eq_ok_iff.mp means
    cases means
    simp [Expr.mem_groups_ofReverse, Tree.mem_groups_meaningsIn exprs_eq, Tree.Offers]

theorem Tree.mem_groups_meaningsIn {mode after : Mode} {done exprs : List Expr} :
    ∀ {parts : List Tree}, Tree.meaningsIn mode done parts = .ok (exprs, after) →
      ((∃ expr ∈ exprs, index ∈ expr.groups) ↔
        (∃ expr ∈ done, index ∈ expr.groups) ∨ Tree.AnyOffers index parts)
  | [], means => by
    cases means
    simp [Tree.AnyOffers]
  | part :: parts, means => by
    obtain ⟨⟨first, _⟩, first_eq, means⟩ := bind_eq_ok_iff.mp means
    rw [Tree.mem_groups_meaningsIn means, List.exists_mem_cons_iff,
      Tree.mem_groups_meaningIn first_eq, Tree.AnyOffers, or_assoc, or_left_comm]

end

theorem Tree.groups_eq_nil_of_not_offers {tree : Tree} (nothing : ∀ index, ¬ tree.Offers index)
    (means : tree.meaningIn mode = .ok (expr, after)) : expr.groups = [] := by
  apply List.eq_nil_iff_forall_not_mem.mpr
  intro index member
  exact nothing index ((Tree.mem_groups_meaningIn means).mp member)

/-! ## Groups inside groups -/

theorem Expr.isNested_of_groups_eq_nil {expr : Expr} (simple : expr.groups = []) :
    expr.IsNested := by
  induction expr with
  | empty | literal | scalar | byte | look => trivial
  | seq first second firstIh secondIh | alt first second firstIh secondIh =>
    obtain ⟨firstSimple, secondSimple⟩ := List.append_eq_nil_iff.mp simple
    exact ⟨firstIh firstSimple, secondIh secondSimple⟩
  | rep least most greedy part ih => exact ih simple
  | capture index part => cases simple

theorem Expr.isHereditary_isNested : IsHereditary IsNested where
  empty := trivial
  impossible := trivial
  append _ _ := trivial
  seq_iff := Iff.rfl
  alt_iff := Iff.rfl
  rep := id
  joined _ joined := isNested_of_groups_eq_nil (groups_of_joined? joined).1

mutual

/-- Where no two groups of a pattern have the same number, none stands inside another with its
number. -/
theorem Tree.isNested_meaningIn {mode after : Mode} {expr : Expr} : ∀ {tree : Tree},
    (tree.groups.map Prod.fst).Nodup → tree.meaningIn mode = .ok (expr, after) → expr.IsNested
  | .empty _, _, means | .flags _ _, _, means | .literal _, _, means | .dot _, _, means
  | .assertion _ _, _, means | .escape _ _ _, _, means | .bracketed _ _ _, _, means =>
    Expr.isNested_of_groups_eq_nil (Tree.groups_eq_nil_of_not_offers (fun _ => id) means)
  | .repetition _ least most greedy part, distinct, means => by
    obtain ⟨⟨inner, _⟩, inner_eq, means⟩ := bind_eq_ok_iff.mp means
    cases means
    rw [Tree.groups] at distinct
    exact Expr.isHereditary_isNested.repeated (Tree.isNested_meaningIn distinct inner_eq) _ _ _
  | .group _ (.capture other name) part, distinct, means => by
    obtain ⟨⟨inner, _⟩, inner_eq, means⟩ := bind_eq_ok_iff.mp means
    cases means
    rw [Tree.groups, List.map_cons, List.nodup_cons] at distinct
    refine ⟨fun inside => distinct.1 ?_, Tree.isNested_meaningIn distinct.2 inner_eq⟩
    exact Tree.mem_groups_of_offers ((Tree.mem_groups_meaningIn inner_eq).mp inside)
  | .group _ (.plain _) part, distinct, means => by
    obtain ⟨⟨inner, _⟩, inner_eq, means⟩ := bind_eq_ok_iff.mp means
    cases means
    rw [Tree.groups] at distinct
    exact Tree.isNested_meaningIn distinct inner_eq
  | .alternation _ parts, distinct, means => by
    obtain ⟨⟨exprs, _⟩, exprs_eq, means⟩ := bind_eq_ok_iff.mp means
    cases means
    rw [Tree.groups] at distinct
    have all := Tree.isNested_meaningsIn distinct (by simp) exprs_eq
    have reversed : ∀ expr ∈ exprs.reverse, expr.IsNested :=
      fun expr member => all expr (List.mem_reverse.mp member)
    exact Expr.isHereditary_isNested.ofBranches reversed
  | .sequence _ parts, distinct, means => by
    obtain ⟨⟨exprs, _⟩, exprs_eq, means⟩ := bind_eq_ok_iff.mp means
    cases means
    rw [Tree.groups] at distinct
    have all := Tree.isNested_meaningsIn distinct (by simp) exprs_eq
    exact Expr.isHereditary_isNested.ofReverse all

theorem Tree.isNested_meaningsIn {mode after : Mode} {done exprs : List Expr} :
    ∀ {parts : List Tree}, ((Tree.allGroups parts).map Prod.fst).Nodup →
      (∀ expr ∈ done, expr.IsNested) → Tree.meaningsIn mode done parts = .ok (exprs, after) →
        ∀ expr ∈ exprs, expr.IsNested
  | [], _, before, means => by
    cases means
    exact before
  | part :: parts, distinct, before, means => by
    obtain ⟨⟨first, _⟩, first_eq, means⟩ := bind_eq_ok_iff.mp means
    rw [Tree.allGroups, List.map_append, List.nodup_append] at distinct
    have firstNested := Tree.isNested_meaningIn distinct.1 first_eq
    refine Tree.isNested_meaningsIn distinct.2.1 ?_ means
    intro expr member
    rcases List.mem_cons.mp member with rfl | member
    · exact firstNested
    · exact before expr member

end

/-! ## Names -/

/-- The names of groups, with their numbers. -/
def namesOf (groups : List (Nat × Option String)) : List (String × Nat) :=
  groups.filterMap fun (index, name) => name.map (·, index)

mutual

theorem Tree.groupNames_eq : ∀ tree : Tree, tree.groupNames = namesOf tree.groups
  | .empty _ | .flags _ _ | .literal _ | .dot _ | .assertion _ _ | .escape _ _ _
  | .bracketed _ _ _ => by simp [Tree.groupNames, Tree.groups, namesOf]
  | .repetition _ _ _ _ part => by
    rw [Tree.groupNames, Tree.groupNames_eq part, Tree.groups]
  | .group _ (.capture _ none) part => by
    simp [Tree.groupNames, Tree.groupNames_eq part, Tree.groups, namesOf]
  | .group _ (.capture _ (some _)) part => by
    simp [Tree.groupNames, Tree.groupNames_eq part, Tree.groups, namesOf]
  | .group _ (.plain _) part => by
    simp [Tree.groupNames, Tree.groupNames_eq part, Tree.groups]
  | .alternation _ parts => by
    rw [Tree.groupNames, Tree.allGroupNames_eq, Tree.groups, List.nil_append]
  | .sequence _ parts => by
    rw [Tree.groupNames, Tree.allGroupNames_eq, Tree.groups, List.nil_append]

theorem Tree.allGroupNames_eq : ∀ (done : List (String × Nat)) (parts : List Tree),
    Tree.allGroupNames done parts = done ++ namesOf (Tree.allGroups parts)
  | done, [] => by simp [Tree.allGroupNames, Tree.allGroups, namesOf]
  | done, part :: parts => by
    rw [Tree.allGroupNames, Tree.allGroupNames_eq, Tree.groupNames_eq part, Tree.allGroups]
    simp [namesOf]

end

/-- Where no two groups have the same name, a name stands for the group that has it. -/
theorem lookup_namesOf_eq_some_iff {groups : List (Nat × Option String)} {name : String}
    (distinct : (groups.filterMap Prod.snd).Nodup) :
    (namesOf groups).lookup name = some index ↔ (index, some name) ∈ groups := by
  induction groups with
  | nil => simp [namesOf]
  | cons group groups ih =>
    obtain ⟨number, _ | other⟩ := group
    · simpa [namesOf] using ih (by simpa using distinct)
    · simp only [List.filterMap_cons, List.nodup_cons] at distinct
      have others := ih distinct.2
      simp only [namesOf, List.filterMap_cons, Option.map_some, List.lookup_cons, List.mem_cons,
        Prod.mk.injEq, Option.some.injEq] at others ⊢
      by_cases same : name = other
      · subst same
        have absent : (index, some name) ∉ groups := by
          intro member
          exact distinct.1 (List.mem_filterMap.mpr ⟨_, member, rfl⟩)
        simp [absent, eq_comm]
      · simp [beq_false_of_ne same, same, others]

end Emend.Pattern
