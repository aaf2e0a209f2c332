/-
# What a change of content leaves alone

Contents are kept apart from the places that show them.  Putting a content into a file therefore
moves no path: every walk ends where it ended before, whatever links it follows, and only what is
read from that one file differs.
-/

import Emend.Host.FileSystem

namespace Emend.FileSystem

variable (files : FileSystem) (number : Nat) (content : Bytes)

/-! ## Walking paths -/

@[simp] theorem node?_setContent (place : Place) :
    (files.setContent number content).node? place = files.node? place := rfl

@[simp] theorem here_setContent : (files.setContent number content).here = files.here := rfl

@[simp] theorem leg_setContent (creating : Bool) (directory : Place) (names : List Name) :
    (files.setContent number content).leg creating directory names =
      files.leg creating directory names := by
  induction names generalizing directory with
  | nil => rfl
  | cons name rest ih => simp only [leg, node?_setContent, ih]

@[simp] theorem walk_setContent (creating : Bool) (links : Nat) (directory : Place)
    (names : List Name) :
    (files.setContent number content).walk creating links directory names =
      files.walk creating links directory names := by
  induction links generalizing directory names with
  | zero => unfold walk; rw [leg_setContent]
  | succ links ih => unfold walk; simp only [leg_setContent, ih]

@[simp] theorem resolve_setContent (path : Path) (creating : Bool) :
    (files.setContent number content).resolve path creating = files.resolve path creating := by
  simp only [resolve, here_setContent, walk_setContent]

@[simp] theorem exists?_setContent (path : Path) :
    (files.setContent number content).exists? path = files.exists? path := by
  simp only [exists?, resolve_setContent]

@[simp] theorem openFile_setContent (path : Path) :
    (files.setContent number content).openFile path = files.openFile path := by
  simp only [openFile, resolve_setContent]

/-! ## Contents -/

@[simp] theorem contents_setContent_self :
    (files.setContent number content).contents number = content := by
  simp [setContent]

theorem contents_setContent_of_ne {other : Nat} (different : other ≠ number) :
    (files.setContent number content).contents other = files.contents other := by
  simp [setContent, different]

/-- Putting back what a file holds changes nothing. -/
@[simp] theorem setContent_contents : files.setContent number (files.contents number) = files := by
  have same :
      (fun other => if other = number then files.contents number else files.contents other) =
        files.contents := by
    funext other
    by_cases equal : other = number <;> simp [equal]
  rw [setContent, same]

/-- Of two contents that are put into a file the second one stays. -/
@[simp] theorem setContent_setContent (later : Bytes) :
    (files.setContent number content).setContent number later = files.setContent number later := by
  unfold setContent
  congr 1
  funext other
  by_cases equal : other = number <;> simp [equal]

/-- Whether the new content is shorter or longer than the old one, exactly the new one is left. -/
theorem replace_file :
    files.replace (.file number) content = (files.setContent number content, .ok ()) := by
  simp [replace, WriteStep.leaves, overwrite]

/-- No device keeps what is written to it, and none lets all steps be done. -/
theorem exists_replace_device_eq_error (device : Device) (refusal? : Option Refusal) :
    ∃ cause, files.replace (.device device) content refusal? = (files, .error cause) := by
  cases refusal? with
  | none => cases device <;> exact ⟨_, rfl⟩
  | some refusal => exact ⟨_, rfl⟩

/-- Where a step of replacing a content is refused, a file holds what the steps before have left,
and nothing else has changed. -/
theorem replace_eq_error_cases {handle : Handle} {refusal? : Option Refusal}
    {left : FileSystem} {cause : SystemError}
    (refused : files.replace handle content refusal? = (left, .error cause)) :
    left = files ∨ ∃ number, ∃ refusal : Refusal, handle = .file number ∧
      refusal? = some refusal ∧ cause = refusal.cause ∧
      left = files.setContent number (refusal.step.leaves (files.contents number) content) := by
  cases handle with
  | device device =>
    obtain ⟨other, refusedToo⟩ := exists_replace_device_eq_error files content device refusal?
    rw [refusedToo] at refused
    cases refused
    exact .inl rfl
  | file number =>
    cases refusal? with
    | none =>
      rw [replace_file] at refused
      cases refused
    | some refusal =>
      cases refused
      exact .inr ⟨number, refusal, rfl, rfl, rfl, rfl⟩

/-- A file with a content, and a link to it under another name. -/
def withLink : FileSystem where
  nodes := [(["a"], .file 0), (["b"], .link "a")]
  contents := fun _ => content
  here := []

/-! ## Opening -/

variable {files}

/-- A path that is not found when it is opened is not found when it is looked for. -/
theorem exists?_of_openFile_notFound {path : Path}
    (refused : files.openFile path = .error .notFound) : files.exists? path = .ok false := by
  unfold openFile at refused
  unfold exists?
  split at refused <;> simp_all

/-- Opening leads to a file exactly if the path does. -/
theorem openFile_eq_file_iff {path : Path} {number : Nat} :
    files.openFile path = .ok (.file number) ↔
      ∃ place, files.resolve path = .ok (.node place (.file number)) := by
  unfold openFile
  split <;> simp_all

/-! ## Files that paths reach -/

variable {number content}

/-- A path leads to the file with a number, through whatever links. -/
def Reaches (files : FileSystem) (path : Path) (number : Nat) : Prop :=
  ∃ place, files.resolve path = .ok (.node place (.file number))

/-- Two paths lead to one file. -/
def SameFile (files : FileSystem) (path other : Path) : Prop :=
  ∃ number, files.Reaches path number ∧ files.Reaches other number

theorem Reaches.unique {path : Path} {number other : Nat} (first : files.Reaches path number)
    (second : files.Reaches path other) : other = number := by
  obtain ⟨place, reached⟩ := first
  obtain ⟨otherPlace, reachedToo⟩ := second
  rw [reached] at reachedToo
  cases reachedToo
  rfl

@[simp] theorem reaches_setContent {path : Path} {other : Nat} :
    (files.setContent number content).Reaches path other ↔ files.Reaches path other := by
  simp only [Reaches, resolve_setContent]

@[simp] theorem sameFile_setContent {path other : Path} :
    (files.setContent number content).SameFile path other ↔ files.SameFile path other := by
  simp only [SameFile, reaches_setContent]

/-- Whoever reaches a file shares it with exactly those that reach it too. -/
theorem Reaches.sameFile_iff {path other : Path} (reached : files.Reaches path number) :
    files.SameFile path other ↔ files.Reaches other number := by
  constructor
  · rintro ⟨shared, reachedToo, otherReached⟩
    rwa [reached.unique reachedToo] at otherReached
  · intro otherReached
    exact ⟨number, reached, otherReached⟩

theorem SameFile.symm {path other : Path} (same : files.SameFile path other) :
    files.SameFile other path := by
  obtain ⟨number, reached, otherReached⟩ := same
  exact ⟨number, otherReached, reached⟩

/-- The number of the file that a path leads to, if it leads to one. -/
def number? (files : FileSystem) (path : Path) : Option Nat :=
  match files.resolve path with
  | .ok (.node _ (.file number)) => some number
  | _ => none

theorem number?_eq_some_iff {path : Path} :
    files.number? path = some number ↔ files.Reaches path number := by
  unfold number? Reaches
  split <;> simp_all

instance (path : Path) (number : Nat) : Decidable (files.Reaches path number) :=
  decidable_of_iff _ number?_eq_some_iff

theorem sameFile_iff_number? {path other : Path} :
    (files.number? path).isSome ∧ files.number? path = files.number? other ↔
      files.SameFile path other := by
  simp only [SameFile, ← number?_eq_some_iff, Option.isSome_iff_exists]
  constructor
  · rintro ⟨⟨number, found⟩, same⟩
    exact ⟨number, found, same ▸ found⟩
  · rintro ⟨number, found, otherFound⟩
    exact ⟨⟨number, found⟩, found.trans otherFound.symm⟩

instance (path other : Path) : Decidable (files.SameFile path other) :=
  decidable_of_iff _ sameFile_iff_number?

theorem Reaches.readFile_eq {path : Path} (reached : files.Reaches path number) :
    files.readFile path = .ok (files.contents number) := by
  rw [readFile, openFile_eq_file_iff.mpr reached]
  rfl

end Emend.FileSystem
