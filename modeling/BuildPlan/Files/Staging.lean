import BuildPlan.Files.Tree
import BuildPlan.Text.Quoted

/-!
# Temporary files

New content is put in a temporary file first. The file is made in a given directory under a name that
nothing has there; then it is written, flushed, synced and given its permission bits. Each of these
steps may be refused for reasons that no tree tells, such as a full disk. If one is refused, the file is
taken away again.

* `Stager` says which name a file gets and which steps are refused.
* `FileTree.stage` takes the steps.
* `Stager.usual` refuses nothing but paths that are too long.
-/

namespace BuildPlan

namespace FileTree

/-- The permission bits of a temporary file just made. -/
def createdMode : Nat := 0o600

/-- The permission bits of a file just written. -/
def writtenMode : Nat := 0o644

/-- The bytes that a temporary file's name and the slash before it add to the path of its directory. -/
def nameRoom : Nat := 28

/-- Take away the file at a location. -/
def unlink (t : FileTree) (loc : Location) : FileTree :=
  { t with entries := t.entries.filter fun e => decide (e.1 ≠ loc) }

end FileTree

namespace Stager

/-- What is done to a temporary file once it is made. -/
inductive Step where
  | write
  | flush
  | sync
  /-- Its permission bits are set. -/
  | permit
deriving DecidableEq

/-- All steps in their order. -/
def Step.all : List Step := [.write, .flush, .sync, .permit]

/-- The file once a step is done. -/
def Step.done (content : List UInt8) : Step → Entry
  | .write | .flush | .sync => .file content FileTree.createdMode
  | .permit => .file content FileTree.writtenMode

structure Refusal where
  obstacle : Obstacle
  /-- How many bytes a write has written by then. -/
  written : Nat := 0
deriving DecidableEq

/-- The file once a step is refused. Some of the content may be missing. -/
def Step.cut (content : List UInt8) (written : Nat) : Step → Entry
  | .write => .file (content.take written) FileTree.createdMode
  | .flush | .sync | .permit => .file content FileTree.createdMode

end Stager

/-- How temporary files are made. Directories are given as they are spelled, with the working directory
that relative ones start from. What is refused depends on these and the content alone, so it is refused
the next time as well. -/
structure Stager where
  /-- The name of the next file in a directory. -/
  name : FileTree → Location → String
  /-- Nothing there has that name. -/
  at?_name : ∀ (t : FileTree) (dir : Location), t.at? (name t dir :: dir) = none
  /-- Why no file can be made in a directory. -/
  creation? : Location → Path → Option Obstacle
  /-- None can be made if its path is too long. -/
  creation?_of_long : ∀ home (directory : Path),
    FileTree.pathLimit ≤ Utf8.size directory.text.toList + FileTree.nameRoom →
      (creation? home directory).isSome
  /-- Why a step is refused, for a file in a directory and its content. -/
  refusal? : Location → Path → List UInt8 → Stager.Step → Option Stager.Refusal

namespace FileTree

open Stager (Step)

/-- Take steps on the temporary file at a location, up to the first that is refused. -/
def takeSteps (t : FileTree) (w : Stager) (directory : Path) (source : Location)
    (content : List UInt8) : List Step → FileTree × Option Obstacle
  | [] => (t, none)
  | step :: rest =>
    match w.refusal? t.home directory content step with
    | some refusal => (t.put source (step.cut content refusal.written), some refusal.obstacle)
    | none => (t.put source (step.done content)).takeSteps w directory source content rest

/-- Make a temporary file in a directory and take all steps on it. What comes back is the tree
afterwards, with the location of the file or else without the file and with the obstacle. -/
def stage (t : FileTree) (w : Stager) (directory : Path) (dir : Location) (content : List UInt8) :
    FileTree × Except Obstacle Location :=
  match w.creation? t.home directory with
  | some obstacle => (t, .error obstacle)
  | none =>
    let source := w.name t dir :: dir
    match (t.put source (.file [] createdMode)).takeSteps w directory source content Step.all with
    | (after, some obstacle) => (after.unlink source, .error obstacle)
    | (after, none) => (after, .ok source)

def textOf (loc : Location) : String := "/" ++ "/".intercalate loc.reverse

end FileTree

namespace Stager

/-! ### Names that are not taken -/

/-- The name of a temporary file. The mark tells it apart from others. -/
def temporaryName (mark : Nat) : String := ".configure." ++ mark.repr ++ ".ninja.tmp"

/-- The first mark of six figures. -/
def firstMark : Nat := 100000

/-- The first mark whose name a directory does not have, so many tries allowed. -/
def freshMark (t : FileTree) (dir : Location) : Nat → Nat → Nat
  | 0, mark => mark
  | tries + 1, mark =>
    if (t.at? (temporaryName mark :: dir)).isSome then freshMark t dir tries (mark + 1) else mark

/-- A name that a directory does not have. There are enough tries to pass every name taken. -/
def freshName (t : FileTree) (dir : Location) : String :=
  temporaryName (freshMark t dir (t.entries.length + 1) firstMark)

/-- Marks can be read off the names. -/
theorem temporaryName_inj {m n : Nat} (h : temporaryName m = temporaryName n) : m = n := by
  rw [temporaryName, temporaryName, ← String.toList_inj] at h
  simp only [String.toList_append, List.append_cancel_right_eq, List.append_cancel_left_eq,
    Nat.toList_repr] at h
  rw [← Nat.ofDigitChars_toDigits (n := m) (b := 10) (by omega) (by omega), h,
    Nat.ofDigitChars_toDigits (by omega) (by omega)]

/-- The mark found is free, unless every mark tried is taken. -/
theorem freshMark_cases (t : FileTree) (dir : Location) (tries mark : Nat) :
    t.at? (temporaryName (freshMark t dir tries mark) :: dir) = none ∨
      ∀ i < tries, (t.at? (temporaryName (mark + i) :: dir)).isSome := by
  induction tries generalizing mark with
  | zero => exact .inr fun i hi => absurd hi (Nat.not_lt_zero i)
  | succ tries ih =>
    rw [freshMark]
    split
    · rename_i htaken
      rcases ih (mark + 1) with hfree | hall
      · exact .inl hfree
      · refine .inr ?_
        intro i hi
        cases i with
        | zero => exact htaken
        | succ i =>
          rw [show mark + (i + 1) = mark + 1 + i by omega]
          exact hall i (by omega)
    · rename_i hfree
      exact .inl (Option.not_isSome_iff_eq_none.1 hfree)

/-- A list that has the names of so many marks is at least so long. -/
theorem le_length_of_marks {locs : List Location} {dir : Location} {tries mark : Nat}
    (h : ∀ i < tries, temporaryName (mark + i) :: dir ∈ locs) : tries ≤ locs.length := by
  induction tries generalizing mark locs with
  | zero => exact Nat.zero_le _
  | succ tries ih =>
    have hfirst : temporaryName mark :: dir ∈ locs := h 0 (Nat.zero_lt_succ tries)
    -- The other names are still there without the first.
    have hrest : ∀ i < tries,
        temporaryName (mark + 1 + i) :: dir ∈ locs.erase (temporaryName mark :: dir) := by
      intro i hi
      rw [show mark + 1 + i = mark + (i + 1) by omega]
      refine (List.mem_erase_of_ne ?_).2 (h (i + 1) (by omega))
      intro hsame
      have := temporaryName_inj (List.cons.inj hsame).1
      omega
    have hlength := ih hrest
    have hpositive := List.length_pos_of_mem hfirst
    rw [List.length_erase_of_mem hfirst] at hlength
    omega

/-- **A fresh name is not taken.** Otherwise more names would be taken than there are entries. -/
theorem at?_freshName (t : FileTree) (dir : Location) : t.at? (freshName t dir :: dir) = none := by
  rcases freshMark_cases t dir (t.entries.length + 1) firstMark with hfree | hall
  · exact hfree
  · have hmem : ∀ i < t.entries.length + 1,
        temporaryName (firstMark + i) :: dir ∈ t.entries.map Prod.fst := by
      intro i hi
      obtain ⟨e, he⟩ := Option.isSome_iff_exists.1 (hall i hi)
      rw [FileTree.at?, if_neg (List.cons_ne_nil _ _), List.lookup_eq_some_iff] at he
      obtain ⟨front, back, heq, -⟩ := he
      rw [heq, List.map_append, List.map_cons]
      exact List.mem_append_right _ List.mem_cons_self
    have hlength := le_length_of_marks hmem
    rw [List.length_map] at hlength
    omega

/-! ### Paths that are too long -/

/-- A directory spelled from the top. -/
def fullPath (home : Location) (directory : Path) : Path :=
  (⟨FileTree.textOf home⟩ : Path).join directory

/-- Spelling a directory from the top does not make it shorter. -/
theorem size_le_size_fullPath (home : Location) (directory : Path) :
    Utf8.size directory.text.toList ≤ Utf8.size (fullPath home directory).text.toList := by
  rw [fullPath, Path.join]
  split
  · exact Nat.le_refl _
  · split
    · simp
    · simp only [String.toList_append, Utf8.size_append]
      omega

/-- Why no file can be made in a directory: its path would be too long. -/
def tooLong? (home : Location) (directory : Path) : Option Obstacle :=
  let full := fullPath home directory
  if FileTree.pathLimit ≤ Utf8.size full.text.toList + FileTree.nameRoom then
    some (.reported (Obstacle.nameTooLong.message ++ " at path " ++
      Quoted.text (full.join ⟨temporaryName firstMark⟩).text))
  else none

/-- Files are refused only if their paths are too long, and no step is refused. -/
def usual : Stager where
  name := freshName
  at?_name := at?_freshName
  creation? := tooLong?
  creation?_of_long home directory hlong := by
    have hsize := size_le_size_fullPath home directory
    rw [tooLong?, if_pos (by omega)]
    rfl
  refusal? _ _ _ _ := none

end Stager

end BuildPlan
