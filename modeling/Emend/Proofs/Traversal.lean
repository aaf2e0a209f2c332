/-
# Going through a list until something fails

Both compiling the patterns of an entry and the first pass of a run take the members of a list in
turn and stop at the first that fails.  Such a traversal succeeds exactly if no member fails, and
otherwise its failure is that of the first member that does.
-/

namespace Emend

/-- What succeeds is followed by what comes next. -/
theorem ok_bind {ε α β : Type} (a : α) (next : α → Except ε β) :
    (Except.ok a >>= next) = next a := rfl

theorem bind_eq_ok_iff {ε α β : Type} {first : Except ε α} {next : α → Except ε β} {result : β} :
    first >>= next = .ok result ↔ ∃ between, first = .ok between ∧ next between = .ok result := by
  cases first <;> simp [bind, Except.bind]

theorem map_eq_ok_iff {ε α β : Type} {first : Except ε α} {f : α → β} {result : β} :
    first.map f = .ok result ↔ ∃ between, first = .ok between ∧ f between = result := by
  cases first <;> simp [Except.map]

end Emend

namespace Emend.Traversal

variable {α β ε : Type} {f : α → Except ε β}

/-- `f` fails with `failure` on a member of a list, and on none before it. -/
def FailsFirst (f : α → Except ε β) (failure : ε) (xs : List α) : Prop :=
  ∃ before x after, xs = before ++ x :: after ∧
    (∀ y ∈ before, ∃ result, f y = .ok result) ∧ f x = .error failure

theorem failsFirst_cons_of_error {failure : ε} {x : α} {xs : List α}
    (failed : f x = .error failure) : FailsFirst f failure (x :: xs) :=
  ⟨[], x, xs, rfl, by simp, failed⟩

/-- Members that do not fail can be put in front. -/
theorem failsFirst_cons_of_ok {failure : ε} {x : α} {xs : List α} {result : β}
    (succeeded : f x = .ok result) (others : FailsFirst f failure xs) :
    FailsFirst f failure (x :: xs) := by
  obtain ⟨before, y, after, rfl, fine, failed⟩ := others
  refine ⟨x :: before, y, after, rfl, ?_, failed⟩
  intro z member
  rcases List.mem_cons.mp member with rfl | member
  · exact ⟨result, succeeded⟩
  · exact fine z member

theorem mapM_cons_of_error {failure : ε} {x : α} {xs : List α} (failed : f x = .error failure) :
    (x :: xs).mapM f = .error failure := by
  simp [List.mapM_cons, failed, bind, Except.bind]

theorem mapM_cons_of_ok {x : α} {xs : List α} {result : β} (succeeded : f x = .ok result) :
    (x :: xs).mapM f = (xs.mapM f).map (result :: ·) := by
  cases rest : xs.mapM f <;>
    simp [List.mapM_cons, succeeded, rest, bind, Except.bind, pure, Except.pure, Except.map]

theorem mapM_cons_eq_ok_iff {x : α} {xs : List α} {results : List β} :
    (x :: xs).mapM f = .ok results ↔
      ∃ result others, f x = .ok result ∧ xs.mapM f = .ok others ∧ results = result :: others := by
  cases first : f x with
  | error failure => simp [mapM_cons_of_error first]
  | ok result =>
    rw [mapM_cons_of_ok first]
    cases xs.mapM f <;> simp [Except.map, eq_comm]

/-- A traversal depends on what is made of the members alone. -/
theorem mapM_congr {g : α → Except ε β} {xs : List α} (same : ∀ x ∈ xs, f x = g x) :
    xs.mapM f = xs.mapM g := by
  induction xs with
  | nil => rfl
  | cons x xs ih =>
    obtain ⟨first, others⟩ := List.forall_mem_cons.mp same
    rw [List.mapM_cons, List.mapM_cons, first, ih others]

/-- Where each result gives what another function makes of the member, the results of a traversal
give what it makes of the list. -/
theorem mapM_eq_ok_map {γ : Type} {g : α → Except ε γ} {image : β → γ}
    (each : ∀ x y, f x = .ok y → g x = .ok (image y)) {xs : List α} {ys : List β}
    (succeeded : xs.mapM f = .ok ys) : xs.mapM g = .ok (ys.map image) := by
  induction xs generalizing ys with
  | nil =>
    cases succeeded
    rfl
  | cons x xs ih =>
    obtain ⟨y, others, first, rest, rfl⟩ := mapM_cons_eq_ok_iff.mp succeeded
    exact mapM_cons_eq_ok_iff.mpr ⟨image y, others.map image, each x y first, ih rest, rfl⟩

/-- Results that are all changed in one way can be changed at the end. -/
theorem mapM_map_result {γ : Type} (image : β → γ) (xs : List α) :
    xs.mapM (fun x => (f x).map image) = (xs.mapM f).map (List.map image) := by
  induction xs with
  | nil => rfl
  | cons x xs ih =>
    cases first : f x with
    | error failure =>
      rw [mapM_cons_of_error first, mapM_cons_of_error (by rw [first]; rfl)]
      rfl
    | ok result =>
      rw [mapM_cons_of_ok first, mapM_cons_of_ok (by rw [first]; rfl), ih]
      cases xs.mapM f <;> rfl

/-- A traversal succeeds exactly if no member fails. -/
theorem exists_mapM_eq_ok_iff {xs : List α} :
    (∃ results, xs.mapM f = .ok results) ↔ ∀ x ∈ xs, ∃ result, f x = .ok result := by
  induction xs with
  | nil => simp [pure, Except.pure]
  | cons x xs ih =>
    cases first : f x with
    | error failure => simp [mapM_cons_of_error first, first]
    | ok result =>
      rw [mapM_cons_of_ok first, List.forall_mem_cons, ← ih]
      cases xs.mapM f <;> simp [first, Except.map]

/-- A traversal fails as the first member does that fails. -/
theorem mapM_eq_error_iff {failure : ε} {xs : List α} :
    xs.mapM f = .error failure ↔ FailsFirst f failure xs := by
  constructor
  · intro failed
    induction xs with
    | nil => cases failed
    | cons x xs ih =>
      cases first : f x with
      | error cause =>
        rw [mapM_cons_of_error first] at failed
        cases failed
        exact failsFirst_cons_of_error first
      | ok result =>
        rw [mapM_cons_of_ok first] at failed
        cases rest : xs.mapM f with
        | error cause =>
          rw [rest] at failed
          cases failed
          exact failsFirst_cons_of_ok first (ih rest)
        | ok results => simp [rest, Except.map] at failed
  · rintro ⟨before, x, after, rfl, fine, failed⟩
    induction before with
    | nil => exact mapM_cons_of_error failed
    | cons y before ih =>
      obtain ⟨result, succeeded⟩ := fine y List.mem_cons_self
      have rest := ih fun z member => fine z (List.mem_cons_of_mem y member)
      rw [List.cons_append, mapM_cons_of_ok succeeded, rest]
      rfl

end Emend.Traversal
