/-
# Paths as sequences of components

A path is read as the sequence of its components, the root being one: that is all that counts when
it is followed.  Joining two paths appends the sequences, and the path that holds another one has its
sequence without the last component, in whatever way the paths are written.
-/

import Emend.Path

namespace Emend.Path

/-- The root, as a component; nothing between slashes is like it. -/
def root : Bytes := [slash]

/-- The components of a path, the root before all others if the path starts there. -/
def parts (path : Path) : List Bytes :=
  (if isAbsolute path then [root] else []) ++ components path

/-! ## Between slashes -/

theorem piecesFrom_slash (piece text rest : Bytes) :
    piecesFrom piece (text ++ slash :: rest) = piecesFrom piece text ++ piecesFrom [] rest := by
  induction text generalizing piece with
  | nil => rfl
  | cons c text ih =>
    rw [List.cons_append, piecesFrom, piecesFrom]
    by_cases slash : c = slash
    · rw [if_pos slash, if_pos slash, ih, List.cons_append]
    · rw [if_neg slash, if_neg slash, ih]

theorem piecesFrom_of_not_mem {text : Bytes} (noSlash : slash ∉ text) (piece : Bytes) :
    piecesFrom piece text = [piece.reverse ++ text] := by
  induction text generalizing piece with
  | nil => rw [piecesFrom, List.append_nil]
  | cons c text ih =>
    rw [List.mem_cons, not_or] at noSlash
    rw [piecesFrom, if_neg (Ne.symm noSlash.1), ih noSlash.2, List.reverse_cons,
      List.append_assoc, List.singleton_append]

theorem components_slash (text rest : Bytes) :
    components (text ++ slash :: rest) = components text ++ components rest := by
  rw [components, pieces, piecesFrom_slash, List.filter_append]
  rfl

theorem components_of_not_mem {text : Bytes} (noSlash : slash ∉ text) :
    components text = if isComponent text then [text] else [] := by
  rw [components, pieces, piecesFrom_of_not_mem noSlash]
  simp [List.filter_cons]

/-! ## Joining -/

/-- The beginning of a path decides whether it starts at the root. -/
theorem isAbsolute_of_prefix {path : Path} {before : Bytes} (isPrefix : before <+: path)
    (nonempty : before ≠ []) : isAbsolute path = decide (before.head? = some slash) := by
  obtain ⟨c, rest, rfl⟩ := List.exists_cons_of_ne_nil nonempty
  obtain ⟨others, path_eq⟩ := isPrefix
  rw [isAbsolute, ← path_eq, List.cons_append, List.head?_cons, List.head?_cons]

/-- A path that goes on from another one after a slash has the components of both. -/
theorem parts_of_slash {path before : Path} {text rest : Bytes}
    (path_eq : path = text ++ slash :: rest) (isPrefix : before <+: path) (nonempty : before ≠ [])
    (components_eq : components before = components text) :
    parts path = parts before ++ components rest := by
  have rooted : isAbsolute path = isAbsolute before := isAbsolute_of_prefix isPrefix nonempty
  rw [parts, parts, rooted, path_eq, components_slash, components_eq, List.append_assoc]

/-- The components of a directory come before those of a file in it. -/
theorem parts_join (directory : Path) {file : Path} (relative : isAbsolute file = false) :
    parts (join directory file) = parts directory ++ parts file := by
  have fileParts : parts file = components file := by
    rw [parts, relative]
    rfl
  rw [fileParts, join, relative]
  simp only [Bool.false_eq_true, ↓reduceIte, Bool.or_eq_true, List.isEmpty_iff, decide_eq_true_eq]
  by_cases empty : directory = []
  · subst empty
    rw [if_pos (.inl rfl), List.nil_append, fileParts]
    rfl
  · by_cases atSlash : directory.getLast? = some slash
    · rw [if_pos (.inr atSlash)]
      obtain ⟨text, directory_eq⟩ := List.getLast?_eq_some_iff.mp atSlash
      have path_eq : directory ++ file = text ++ slash :: file := by
        rw [directory_eq, List.append_assoc, List.singleton_append]
      apply parts_of_slash path_eq (List.prefix_append ..) empty
      rw [directory_eq, components_slash]
      exact List.append_nil _
    · rw [if_neg (not_or.mpr ⟨empty, atSlash⟩)]
      exact parts_of_slash rfl (List.prefix_append ..) empty rfl

theorem join_of_isAbsolute (directory : Path) {file : Path} (absolute : isAbsolute file = true) :
    join directory file = file := by
  rw [join, if_pos absolute]

/-! ## The path around -/

theorem trimFrom_suffix (reversed : Bytes) : trimFrom reversed <:+ reversed := by
  fun_induction trimFrom reversed with
  | case1 => exact List.suffix_rfl
  | case2 rest ih => exact ih.trans (List.suffix_cons ..)
  | case3 b rest _ _ ih => exact ih.trans (List.suffix_cons ..)
  | case4 => exact List.suffix_rfl

/-- Slashes and single dots at the end are no components. -/
theorem components_trimFrom (reversed : Bytes) :
    components (trimFrom reversed).reverse = components reversed.reverse := by
  fun_induction trimFrom reversed with
  | case1 => rfl
  | case2 rest ih =>
    rw [ih, List.reverse_cons, components_slash]
    exact (List.append_nil _).symm
  | case3 b rest _ single ih =>
    obtain ⟨rfl, atSlash⟩ : b = dot ∧ rest.head? = some slash := by simpa using single
    obtain ⟨others, rfl⟩ := List.head?_eq_some_iff.mp atSlash
    rw [ih]
    simp only [List.reverse_cons, List.append_assoc, List.singleton_append, components_slash]
    rfl
  | case4 => rfl

/-- What is left does not end in a slash, nor in a single dot after one. -/
theorem trimFrom_ne {reversed : Bytes} (rest : Bytes) :
    trimFrom reversed ≠ slash :: rest ∧ trimFrom reversed ≠ dot :: slash :: rest := by
  fun_induction trimFrom reversed with
  | case1 => exact ⟨nofun, nofun⟩
  | case2 rest ih => exact ih
  | case3 b rest _ _ ih => exact ih
  | case4 b others noSlash noDot =>
    constructor
    · intro same
      exact noSlash (List.cons.inj same).1
    · intro same
      obtain ⟨rfl, rfl⟩ := List.cons.inj same
      exact noDot rfl

section

variable {path : Path} {body name outer : Bytes}

theorem components_of_trimFrom (body_eq : trimFrom path.reverse = body) :
    components path = components body.reverse := by
  rw [← body_eq, components_trimFrom, List.reverse_reverse]

theorem isAbsolute_of_suffix (isSuffix : body <:+ path.reverse) (nonempty : body ≠ []) :
    isAbsolute path = decide (body.reverse.head? = some slash) := by
  apply isAbsolute_of_prefix
  · rw [← List.reverse_suffix, List.reverse_reverse]
    exact isSuffix
  · simpa using nonempty

/-- A single component has nothing around it. -/
theorem parent?_of_single (body_eq : trimFrom path.reverse = body) (nonempty : body ≠ [])
    (noSlash : slash ∉ body) : parent? path = some [] ∧ (parts path).dropLast = [] := by
  have relative : isAbsolute path = false := by
    rw [isAbsolute_of_suffix (body_eq ▸ trimFrom_suffix _) nonempty]
    apply decide_eq_false
    intro atSlash
    exact noSlash (List.mem_reverse.mp (List.mem_of_mem_head? atSlash))
  have nothing : body.dropWhile (· ≠ slash) = [] := by
    have dropped : (body ++ []).dropWhile (· ≠ slash) = [].dropWhile (· ≠ slash) := by
      apply List.dropWhile_append_of_pos
      intro c member
      exact decide_eq_true fun isSlash => noSlash (isSlash ▸ member)
    rwa [List.append_nil] at dropped
  constructor
  · rw [parent?]
    simp only [body_eq, nothing, List.isEmpty_iff, nonempty, relative, trimFrom]
    rfl
  · have noSlash' : slash ∉ body.reverse := by rwa [List.mem_reverse]
    rw [parts, if_neg (by simp [relative]), components_of_trimFrom body_eq,
      components_of_not_mem noSlash']
    split <;> rfl

/-- The last of several components has the other ones around it. -/
theorem parent?_of_slash (body_eq : trimFrom path.reverse = name ++ slash :: outer)
    (noSlash : slash ∉ name) :
    parent? path = some (if (trimFrom outer).isEmpty then (if isAbsolute path then [slash] else [])
        else (trimFrom outer).reverse) ∧
      (parts path).dropLast =
        (if isAbsolute path then [root] else []) ++ components outer.reverse := by
  have dropped : (name ++ slash :: outer).dropWhile (· ≠ slash) = slash :: outer := by
    rw [List.dropWhile_append_of_pos]
    · rfl
    · intro c member
      exact decide_eq_true fun isSlash => noSlash (isSlash ▸ member)
  have isName : isComponent name.reverse = true := by
    have ne_nil : name ≠ [] := by
      rintro rfl
      exact (trimFrom_ne outer).1 body_eq
    have ne_dot : name ≠ [dot] := by
      rintro rfl
      exact (trimFrom_ne outer).2 body_eq
    simpa [isComponent, ← List.reverse_eq_iff] using And.intro ne_nil ne_dot
  constructor
  · rw [parent?]
    simp only [body_eq, dropped, trimFrom, List.isEmpty_iff, List.append_eq_nil_iff, reduceCtorEq,
      and_false, ↓reduceIte]
    split <;> rfl
  · have noSlash' : slash ∉ name.reverse := by rwa [List.mem_reverse]
    rw [parts, components_of_trimFrom body_eq, List.reverse_append, List.reverse_cons,
      List.append_assoc, List.singleton_append, components_slash,
      components_of_not_mem noSlash', if_pos isName, ← List.append_assoc, List.dropLast_concat]

/-- The components of the path around, if it says anything, are those of the path without the last
one. -/
theorem parts_parent? (path : Path) :
    (((parent? path).filter (!·.isEmpty)).map parts).getD [] = (parts path).dropLast := by
  by_cases empty : trimFrom path.reverse = []
  · have noParent : parent? path = none := by simp [parent?, empty]
    have noComponents : components path = [] := components_of_trimFrom empty
    rw [noParent, parts, noComponents]
    split <;> rfl
  by_cases hasSlash : slash ∈ trimFrom path.reverse
  · obtain ⟨name, outer, body_eq, noSlash⟩ := List.eq_append_cons_of_mem hasSlash
    obtain ⟨parent_eq, parts_eq⟩ := parent?_of_slash body_eq noSlash
    rw [parent_eq, parts_eq, ← components_trimFrom]
    by_cases nothing : trimFrom outer = []
    · rw [nothing]
      cases isAbsolute path <;> rfl
    · have isSuffix : trimFrom outer <:+ path.reverse := by
        apply (trimFrom_suffix outer).trans
        apply List.IsSuffix.trans _ (trimFrom_suffix _)
        rw [body_eq]
        exact ⟨name ++ [slash], by simp⟩
      have rooted := isAbsolute_of_suffix isSuffix nothing
      have said : (!(trimFrom outer).reverse.isEmpty) = true := by
        simpa using nothing
      have isAround : parts (trimFrom outer).reverse =
          (if isAbsolute path then [root] else []) ++ components (trimFrom outer).reverse := by
        rw [parts, rooted, isAbsolute]
      rw [if_neg (by simpa using nothing), Option.filter_some, if_pos said, ← isAround]
      rfl
  · obtain ⟨isEmpty, single⟩ := parent?_of_single rfl empty hasSlash
    rw [isEmpty, single]
    rfl

end

/-! ## Where a path leads by its text alone -/

/-- The components of a place, the last one first, after going on by one component.  Nothing is above
the root, and above the place where a relative path starts there is only the way up. -/
def goOn (trail : List Bytes) (part : Bytes) : List Bytes :=
  if part = up then
    match trail with
    | [] => [up]
    | last :: rest => if last = root then trail else if last = up then up :: trail else rest
  else part :: trail

/-- The place to which components lead, if none of them is a link. -/
def lexical (parts : List Bytes) : List Bytes := (parts.foldl goOn []).reverse

theorem foldl_goOn {parts : List Bytes} (noWayUp : up ∉ parts) (trail : List Bytes) :
    parts.foldl goOn trail = parts.reverse ++ trail := by
  induction parts generalizing trail with
  | nil => rfl
  | cons part parts ih =>
    rw [List.mem_cons, not_or] at noWayUp
    have first : goOn trail part = part :: trail := if_neg (Ne.symm noWayUp.1)
    rw [List.foldl_cons, first, ih noWayUp.2, List.reverse_cons, List.append_assoc,
      List.singleton_append]

/-- Components among which no way up is lead further into the place before them. -/
theorem lexical_append (outer : List Bytes) {parts : List Bytes} (noWayUp : up ∉ parts) :
    lexical (outer ++ parts) = lexical outer ++ parts := by
  rw [lexical, lexical, List.foldl_append, foldl_goOn noWayUp, List.reverse_append,
    List.reverse_reverse]

end Emend.Path
