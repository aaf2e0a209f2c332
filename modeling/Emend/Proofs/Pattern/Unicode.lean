/-
# Patterns that leave Unicode on

A pattern that never switches Unicode off stands for whole characters: its literals are texts, its
sets are sets of characters, and sets of bytes come up only where all their members are ASCII
characters.
-/

import Emend.Pattern.Meaning
import Emend.Proofs.Pattern.Forms
import Emend.Proofs.Text.Positions
import Emend.Proofs.Traversal

namespace Emend.Pattern

open Bytes (IsText)

/-! ## Patterns as they are written -/

/-- Whether switches leave Unicode on. -/
def Flags.keepUnicode (switches : Flags) : Bool := !switches.contains (Flag.unicode, false)

/-- Whether a group leaves Unicode on. -/
def GroupKind.keepsUnicode : GroupKind → Bool
  | .capture .. => true
  | .plain switches => Flags.keepUnicode switches

mutual

/-- Whether a pattern nowhere turns Unicode off. -/
def Tree.keepsUnicode : Tree → Bool
  | .flags _ switches => Flags.keepUnicode switches
  | .repetition _ _ _ _ part => part.keepsUnicode
  | .group _ kind part => kind.keepsUnicode && part.keepsUnicode
  | .alternation _ parts => Tree.allKeepUnicode parts
  | .sequence _ parts => Tree.allKeepUnicode parts
  | _ => true

/-- Whether several parts nowhere turn Unicode off. -/
def Tree.allKeepUnicode : List Tree → Bool
  | [] => true
  | part :: parts => part.keepsUnicode && Tree.allKeepUnicode parts

end

theorem Mode.unicode_apply {mode : Mode} {switches : Flags} (unicode : mode.unicode = true)
    (keeps : Flags.keepUnicode switches = true) : (mode.apply switches).unicode = true := by
  apply List.foldlRecOn (motive := fun mode : Mode => mode.unicode = true) switches _ unicode
  rintro mode unicode ⟨flag, on⟩ member
  cases flag with
  | unicode =>
    cases on with
    | true => rfl
    | false =>
      have absent : (Flag.unicode, false) ∉ switches := by simpa [Flags.keepUnicode] using keeps
      exact absurd member absent
  | _ => exact unicode

/-! ## Expressions over characters -/

namespace Expr

/-- The expression stands for whole characters. -/
def IsTextual : Expr → Prop
  | .literal bytes => IsText bytes
  | .byte set => isAsciiSet set = true
  | .seq first second => first.IsTextual ∧ second.IsTextual
  | .alt first second => first.IsTextual ∧ second.IsTextual
  | .rep _ _ _ part => part.IsTextual
  | .capture _ part => part.IsTextual
  | _ => True

theorem isTextual_ofScalars (set : Unicode.Ranges) : (ofScalars set).IsTextual := by
  unfold ofScalars
  split
  · rfl
  · split
    · exact Bytes.isText_utf8EncodeChar _
    · trivial
  · trivial

/-- Where each branch is a single byte, each is a single character. -/
theorem isSome_singleScalar? {expr : Expr} (textual : expr.IsTextual)
    (single : expr.singleByte?.isSome) : expr.singleScalar?.isSome := by
  unfold singleByte? at single
  split at single
  · rename_i b
    obtain ⟨c, encoded⟩ := Bytes.IsText.exists_char textual
    have read : Utf8.scalar? [b] = some (c, 1) := by
      rw [Utf8.scalar?_eq_some_iff, encoded]
      exact ⟨List.prefix_rfl, rfl⟩
    simp [singleScalar?, read]
  · cases single

/-- Where each branch is a set of bytes, each is a set of characters. -/
theorem isSome_scalarSet? {expr : Expr} (textual : expr.IsTextual)
    (single : expr.byteSet?.isSome) : expr.scalarSet?.isSome := by
  unfold byteSet? at single
  split at single
  · rename_i set
    have ascii : isAsciiSet set = true := textual
    simp [scalarSet?, ascii]
  · rfl
  · cases single

theorem isTextual_of_joined? {branches : List Expr} {set : Expr}
    (textual : ∀ branch ∈ branches, branch.IsTextual) (joined : joined? branches = some set) :
    set.IsTextual := by
  simp only [joined?, Option.orElse_eq_orElse, Option.orElse_eq_or, Option.or_eq_some_iff,
    Option.map_eq_some_iff, Option.map_eq_none_iff] at joined
  obtain ⟨_, -, rfl⟩ | ⟨noScalars, ⟨_, bytes, rfl⟩ | ⟨-, ⟨_, -, rfl⟩ |
    ⟨noSets, _, byteSets, rfl⟩⟩⟩ := joined
  · exact isTextual_ofScalars _
  · -- single bytes would have been single characters before
    have all := isSome_mapM.mp (Option.isSome_of_eq_some bytes)
    have some_scalars := isSome_mapM.mpr fun branch member =>
      isSome_singleScalar? (textual branch member) (all branch member)
    rw [noScalars] at some_scalars
    cases some_scalars
  · exact isTextual_ofScalars _
  · have all := isSome_mapM.mp (Option.isSome_of_eq_some byteSets)
    have some_sets := isSome_mapM.mpr fun branch member =>
      isSome_scalarSet? (textual branch member) (all branch member)
    rw [noSets] at some_sets
    cases some_sets

theorem isHereditary_isTextual : IsHereditary IsTextual where
  empty := trivial
  impossible := rfl
  append := Bytes.IsText.append
  seq_iff := Iff.rfl
  alt_iff := Iff.rfl
  rep := id
  joined := isTextual_of_joined?

end Expr

/-! ## Meaning -/

variable {mode after : Mode} {expr : Expr}

theorem Mode.isTextual_oneOf (unicode : mode.unicode = true) (set : Unicode.Ranges) :
    (mode.oneOf set).IsTextual := by
  rw [Mode.oneOf, if_pos unicode]
  exact Expr.isTextual_ofScalars set

theorem Literal.isTextual_meaning {lit : Literal} (unicode : mode.unicode = true)
    (means : lit.meaning mode = .ok expr) : expr.IsTextual := by
  simp only [Literal.meaning, unicode, Bool.not_true, Bool.false_and, Bool.false_eq_true,
    if_false] at means
  split at means
  · cases means
    exact Bytes.isText_utf8EncodeChar lit.char
  · cases means
    exact Mode.isTextual_oneOf unicode _

mutual

/-- Unicode stays on throughout a pattern, and its meaning stands for whole characters. -/
theorem Tree.isTextual_meaningIn {mode after : Mode} {expr : Expr}
    (unicode : mode.unicode = true) :
    ∀ {tree : Tree}, tree.keepsUnicode = true → tree.meaningIn mode = .ok (expr, after) →
      expr.IsTextual ∧ after.unicode = true
  | .empty _, _, means => by
    cases means
    exact ⟨trivial, unicode⟩
  | .flags _ switches, keeps, means => by
    cases means
    exact ⟨trivial, Mode.unicode_apply unicode keeps⟩
  | .literal lit, _, means => by
    obtain ⟨inner, inner_eq, means⟩ := bind_eq_ok_iff.mp means
    cases means
    exact ⟨Literal.isTextual_meaning unicode inner_eq, unicode⟩
  | .dot span, _, means => by
    obtain ⟨dot, dot_eq, means⟩ := bind_eq_ok_iff.mp means
    obtain ⟨set, -, dot_eq⟩ := bind_eq_ok_iff.mp dot_eq
    cases dot_eq
    cases means
    exact ⟨Mode.isTextual_oneOf unicode set, unicode⟩
  | .assertion _ kind, _, means => by
    cases means
    exact ⟨trivial, unicode⟩
  | .escape _ _ _, _, means => by
    obtain ⟨set, -, means⟩ := bind_eq_ok_iff.mp means
    cases means
    exact ⟨Mode.isTextual_oneOf unicode set, unicode⟩
  | .bracketed _ _ _, _, means => by
    obtain ⟨inner, -, means⟩ := bind_eq_ok_iff.mp means
    obtain ⟨set, -, means⟩ := bind_eq_ok_iff.mp means
    cases means
    exact ⟨Mode.isTextual_oneOf unicode set, unicode⟩
  | .repetition _ least most greedy part, keeps, means => by
    obtain ⟨⟨inner, _⟩, inner_eq, means⟩ := bind_eq_ok_iff.mp means
    cases means
    have partKeeps : part.keepsUnicode = true := keeps
    obtain ⟨textual, stays⟩ := Tree.isTextual_meaningIn unicode partKeeps inner_eq
    exact ⟨Expr.isHereditary_isTextual.repeated textual _ _ _, stays⟩
  | .group _ (.capture index name) part, keeps, means => by
    obtain ⟨⟨inner, _⟩, inner_eq, means⟩ := bind_eq_ok_iff.mp means
    cases means
    have partKeeps : part.keepsUnicode = true := keeps
    exact ⟨(Tree.isTextual_meaningIn unicode partKeeps inner_eq).1, unicode⟩
  | .group _ (.plain switches) part, keeps, means => by
    obtain ⟨⟨inner, _⟩, inner_eq, means⟩ := bind_eq_ok_iff.mp means
    cases means
    obtain ⟨switchesKeep, partKeeps⟩ := Bool.and_eq_true_iff.mp keeps
    have inside := Mode.unicode_apply unicode switchesKeep
    exact ⟨(Tree.isTextual_meaningIn inside partKeeps inner_eq).1, unicode⟩
  | .alternation _ parts, keeps, means => by
    obtain ⟨⟨exprs, _⟩, exprs_eq, means⟩ := bind_eq_ok_iff.mp means
    cases means
    obtain ⟨all, stays⟩ := Tree.isTextual_meaningsIn unicode keeps (by simp) exprs_eq
    have reversed : ∀ expr ∈ exprs.reverse, expr.IsTextual :=
      fun expr member => all expr (List.mem_reverse.mp member)
    exact ⟨Expr.isHereditary_isTextual.ofBranches reversed, stays⟩
  | .sequence _ parts, keeps, means => by
    obtain ⟨⟨exprs, _⟩, exprs_eq, means⟩ := bind_eq_ok_iff.mp means
    cases means
    obtain ⟨all, stays⟩ := Tree.isTextual_meaningsIn unicode keeps (by simp) exprs_eq
    exact ⟨Expr.isHereditary_isTextual.ofReverse all, stays⟩

theorem Tree.isTextual_meaningsIn {mode after : Mode} {done exprs : List Expr}
    (unicode : mode.unicode = true) :
    ∀ {parts : List Tree}, Tree.allKeepUnicode parts = true → (∀ expr ∈ done, expr.IsTextual) →
      Tree.meaningsIn mode done parts = .ok (exprs, after) →
        (∀ expr ∈ exprs, expr.IsTextual) ∧ after.unicode = true
  | [], _, before, means => by
    cases means
    exact ⟨before, unicode⟩
  | part :: parts, keeps, before, means => by
    obtain ⟨⟨first, _⟩, first_eq, means⟩ := bind_eq_ok_iff.mp means
    obtain ⟨partKeeps, othersKeep⟩ := Bool.and_eq_true_iff.mp keeps
    obtain ⟨firstTextual, stays⟩ := Tree.isTextual_meaningIn unicode partKeeps first_eq
    have all : ∀ expr ∈ first :: done, expr.IsTextual :=
      List.forall_mem_cons.mpr ⟨firstTextual, before⟩
    exact Tree.isTextual_meaningsIn stays othersKeep all means

end

theorem Tree.isTextual_of_meaning {tree : Tree} (keeps : tree.keepsUnicode = true)
    (means : tree.meaning = .ok expr) : expr.IsTextual := by
  obtain ⟨⟨inner, _⟩, inner_eq, means⟩ := bind_eq_ok_iff.mp means
  cases means
  exact (Tree.isTextual_meaningIn rfl keeps inner_eq).1

end Emend.Pattern
