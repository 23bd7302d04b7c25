import BuildPlan.Files.Replace
import BuildPlan.Proofs.Files.Growth

/-!
# What staging a file does to a tree

While a temporary file is worked on, the tree is the one from before with that file more. Every step
keeps it so, a refused one included. So taking the file away gives the tree from before, and moving it
puts it at its destination as if it had never been anywhere else.

* `Staged` — one tree is another with a file more; `Staged.put`, `Staged.unlink_eq` and
  `Staged.rename_eq` are what becomes of it.
* `takeSteps_cases` — steps taken in turn, up to the first that is refused.
* `Stager.Allows` — nothing is refused for a directory and a content.
* **`stage_cases`** — the file is staged with all its content if nothing is refused, and otherwise the
  tree is the one from before.
-/

namespace BuildPlan

/-- Nothing is refused for a file in a directory with that content. -/
def Stager.Allows (w : Stager) (home : Location) (directory : Path) (content : List UInt8) : Prop :=
  w.creation? home directory = none ∧
    ∀ step ∈ Step.all, w.refusal? home directory content step = none

namespace FileTree

open Stager (Step)

/-! ### Taking a file away -/

/-- Taking away what was put somewhere is taking away what was there before. -/
theorem unlink_put (t : FileTree) (loc : Location) (e : Entry) :
    (t.put loc e).unlink loc = t.unlink loc := by
  rw [unlink, put, List.filter_cons_of_neg (by simp)]
  rfl

/-- Where nothing is, nothing is taken away. -/
theorem unlink_of_at?_eq_none {t : FileTree} {loc : Location} (h : t.at? loc = none) :
    t.unlink loc = t := by
  have hother : ∀ entry ∈ t.entries, decide (entry.1 ≠ loc) = true := by
    intro entry hentry
    rw [at?] at h
    split at h
    · cases h
    · have hne := List.lookup_eq_none_iff.1 h entry hentry
      rw [bne_iff_ne] at hne
      exact decide_eq_true (Ne.symm hne)
  rw [unlink, List.filter_eq_self.2 hother]

/-- Taking a file away leaves the other locations alone. -/
theorem at?_unlink_of_ne (t : FileTree) {loc other : Location} (h : other ≠ loc) :
    (t.unlink loc).at? other = t.at? other := by
  rw [at?, at?]
  split
  · rfl
  · rw [unlink]
    dsimp only
    induction t.entries with
    | nil => rfl
    | cons entry rest ih =>
      obtain ⟨key, e⟩ := entry
      rw [List.filter_cons, List.lookup_cons]
      split
      · rw [List.lookup_cons, ih]
      · rename_i hkey
        have hsame : key = loc := by simpa using hkey
        rw [ih, hsame, beq_eq_false_iff_ne.2 h]

/-! ### A file more -/

/-- The tree `after` is the tree `t` with the entry `e` more, at a location where nothing was. -/
structure Staged (t after : FileTree) (source : Location) (e : Entry) : Prop where
  free : t.at? source = none
  unlink_eq : after.unlink source = t
  at?_source : after.at? source = some e

namespace Staged

variable {t after : FileTree} {source : Location} {e : Entry}

theorem source_ne_nil (h : Staged t after source e) : source ≠ [] := by
  rintro rfl
  cases h.free

/-- Something put where nothing was. -/
theorem start (hfree : t.at? source = none) (e : Entry) : Staged t (t.put source e) source e where
  free := hfree
  unlink_eq := by rw [unlink_put, unlink_of_at?_eq_none hfree]
  at?_source := by
    refine at?_put_self t e ?_
    rintro rfl
    cases hfree

/-- Whatever is done to the file, the rest stays as it was. -/
theorem put (h : Staged t after source e) (e' : Entry) :
    Staged t (after.put source e') source e' where
  free := h.free
  unlink_eq := by rw [unlink_put, h.unlink_eq]
  at?_source := at?_put_self after e' h.source_ne_nil

theorem home_eq (h : Staged t after source e) : after.home = t.home := by
  rw [← h.unlink_eq]
  rfl

theorem at?_of_ne (h : Staged t after source e) {other : Location} (hne : other ≠ source) :
    after.at? other = t.at? other := by
  rw [← h.unlink_eq, at?_unlink_of_ne after hne]

/-- The directories are the same ones, since the file is none. -/
theorem at?_eq_directory_iff {content : List UInt8} {mode : Nat}
    (h : Staged t after source (.file content mode)) {loc : Location} :
    after.at? loc = some .directory ↔ t.at? loc = some .directory := by
  by_cases hloc : loc = source
  · rw [hloc, h.free, h.at?_source]
    exact ⟨nofun, nofun⟩
  · rw [h.at?_of_ne hloc]

/-- Moving the file puts it at its destination in the tree without it. -/
theorem rename_eq (h : Staged t after source e) (dest : Location) :
    after.rename source dest = t.put dest e := by
  rw [rename, h.at?_source]
  show (after.unlink source).put dest e = _
  rw [h.unlink_eq]

end Staged

/-! ### Steps -/

section

variable {t : FileTree} {source : Location} (w : Stager) (directory : Path) (content : List UInt8)

/-- **Steps keep the rest of the tree as it was**, whether all of them are taken or one is refused. -/
theorem takeSteps_cases (steps : List Step) {now : FileTree} {e : Entry} (h : Staged t now source e) :
    ((∃ step ∈ steps, w.refusal? t.home directory content step ≠ none) ∧
      ∃ after obstacle e', Staged t after source e' ∧
        now.takeSteps w directory source content steps = (after, some obstacle)) ∨
    ((∀ step ∈ steps, w.refusal? t.home directory content step = none) ∧
      ∃ after, Staged t after source (steps.foldl (fun _ step => step.done content) e) ∧
        now.takeSteps w directory source content steps = (after, none)) := by
  induction steps generalizing now e with
  | nil => exact .inr ⟨by simp, now, h, rfl⟩
  | cons step rest ih =>
    rw [takeSteps, h.home_eq]
    cases hstep : w.refusal? t.home directory content step with
    | some refusal =>
      have hrefused : w.refusal? t.home directory content step ≠ none := by
        rw [hstep]
        exact Option.some_ne_none _
      exact .inl ⟨⟨step, List.mem_cons_self, hrefused⟩, _, _, _, h.put _, rfl⟩
    | none =>
      rcases ih (h.put (step.done content)) with
        ⟨⟨other, hother, hrefused⟩, hrest⟩ | ⟨hall, hrest⟩
      · exact .inl ⟨⟨other, List.mem_cons_of_mem _ hother, hrefused⟩, hrest⟩
      · refine .inr ⟨?_, hrest⟩
        intro other hother
        rcases List.mem_cons.1 hother with rfl | hother
        · exact hstep
        · exact hall other hother

/-- **Staging is all or nothing.** If nothing is refused, the tree has the temporary file more, with all
the content and its permission bits set. If anything is refused, the tree is the one from before. -/
theorem stage_cases (t : FileTree) (w : Stager) (directory : Path) (dir : Location)
    (content : List UInt8) :
    (¬ w.Allows t.home directory content ∧
      ∃ obstacle, t.stage w directory dir content = (t, .error obstacle)) ∨
    (w.Allows t.home directory content ∧
      ∃ after source, Staged t after source (.file content writtenMode) ∧
        t.stage w directory dir content = (after, .ok source)) := by
  rw [stage]
  cases hcreation : w.creation? t.home directory with
  | some obstacle =>
    refine .inl ⟨?_, obstacle, rfl⟩
    rintro ⟨hnone, -⟩
    rw [hcreation] at hnone
    cases hnone
  | none =>
    have hstart := Staged.start (w.at?_name t dir) (.file [] createdMode)
    dsimp only
    rcases takeSteps_cases w directory content Step.all hstart with
      ⟨⟨step, hstep, hrefused⟩, after, obstacle, e, hafter, heq⟩ | ⟨hall, after, hafter, heq⟩
    · rw [heq]
      refine .inl ⟨?_, obstacle, ?_⟩
      · rintro ⟨-, hnone⟩
        exact hrefused (hnone step hstep)
      · dsimp only
        rw [hafter.unlink_eq]
    · rw [heq]
      exact .inr ⟨⟨hcreation, hall⟩, after, _, hafter, rfl⟩

end

end FileTree

end BuildPlan
