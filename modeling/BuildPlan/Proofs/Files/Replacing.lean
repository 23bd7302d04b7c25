import BuildPlan.Proofs.Files.Staging
import Mathlib.Data.List.Basic

/-!
# What replacing a file does to a tree

A file is replaced in several steps: directories are made, a temporary file is staged, and it is moved
to its destination. Any of them may fail. This file says what is left in every case.

* `exists_of_destination` — what is known of a path that a file can be moved to.
* **`replaceFile_cases`** — either an obstacle is reported and the tree has only gained directories, or
  the path leads to the new file afterwards and the rest of the tree has only gained directories. The
  temporary file is gone both ways.
-/

namespace BuildPlan

namespace FileTree

/-! ### The destination -/

/-- Only empty pieces at the end are dropped. -/
theorem withoutTrailingSlash_append_singleton {front : List (List Char)} {last : List Char}
    (h : last ≠ []) : withoutTrailingSlash (front ++ [last]) = front ++ [last] := by
  have hfull : last.isEmpty = false := by
    rw [List.isEmpty_eq_false_iff]
    exact h
  rw [withoutTrailingSlash, List.reverse_append, List.reverse_singleton, List.singleton_append,
    List.dropWhile_cons_of_neg (by rw [hfull]; exact Bool.false_ne_true), List.reverse_cons,
    List.reverse_reverse]

/-- A destination is found only if nothing speaks against it. -/
theorem destination_cases {t : FileTree} {p : Path} {dest : Location}
    (h : t.destination p = .ok dest) :
    (holdsNul p = false ∧ p.text.isEmpty = false ∧ isTooLong p.text.toList = false) ∧
      ∃ last dir, (withoutTrailingSlash p.pieces).getLast? = some last ∧
        t.followAll (t.origin p) ((withoutTrailingSlash p.pieces).dropLast ++ [[]]) = .ok dir ∧
        ¬ (last = ['.'] ∨ last = ['.', '.']) ∧ ¬ nameLimit < Utf8.size last ∧
        p.pieces.getLast? ≠ some [] ∧ dest = String.ofList last :: dir ∧
        t.at? dest ≠ some .directory := by
  rw [destination] at h
  split at h
  · cases h
  rename_i hnul
  split at h
  · cases h
  rename_i hempty
  split at h
  · cases h
  rename_i hlong
  refine ⟨⟨eq_false_of_ne_true hnul, eq_false_of_ne_true hempty, eq_false_of_ne_true hlong⟩, ?_⟩
  simp only at h
  split at h
  · cases h
  rename_i last hlast
  split at h
  · cases h
  rename_i dir hfollow
  split at h
  · cases h
  rename_i hdots
  split at h
  · cases h
  rename_i hlimit
  split at h
  · cases h
  rename_i hslash
  split at h
  · cases h
  rename_i hfile
  cases h
  exact ⟨last, dir, hlast, hfollow, hdots, hlimit, hslash, rfl, hfile⟩

/-- **What is known of a path that a file can be moved to**: it ends in a name, the pieces before lead
to a directory, and in that directory the name is not the name of a directory. -/
theorem exists_of_destination {t : FileTree} {p : Path} {dest : Location}
    (h : t.destination p = .ok dest) :
    ∃ front last dir, p.pieces = front ++ [last] ∧ IsName last ∧ Utf8.size last ≤ nameLimit ∧
      t.followAll (t.origin p) front = .ok dir ∧ t.at? dir = some .directory ∧
      dest = String.ofList last :: dir ∧ t.at? dest ≠ some .directory := by
  obtain ⟨-, last, dir, hlast, hfollow, hdots, hlimit, hslash, rfl, hfile⟩ := destination_cases h
  -- The path does not end in a slash, so no piece of it has been dropped.
  obtain ⟨front, hpieces, hne⟩ : ∃ front, p.pieces = front ++ [last] ∧ last ≠ [] := by
    rcases List.eq_nil_or_concat' p.pieces with hnil | ⟨front, x, hconcat⟩
    · rw [hnil] at hlast
      cases hlast
    · have hx : x ≠ [] := by
        rintro rfl
        exact hslash (by rw [hconcat, List.getLast?_concat])
      rw [hconcat, withoutTrailingSlash_append_singleton hx, List.getLast?_concat] at hlast
      cases hlast
      exact ⟨front, hconcat, hx⟩
  have hname : IsName last := ⟨hne, fun heq => hdots (.inl heq), fun heq => hdots (.inr heq)⟩
  rw [hpieces, withoutTrailingSlash_append_singleton hne, List.dropLast_concat,
    followAll_append] at hfollow
  cases hfront : t.followAll (t.origin p) front with
  | error obstacle =>
    rw [hfront] at hfollow
    cases hfollow
  | ok middle =>
    rw [hfront] at hfollow
    have hstay : t.follow middle [] = .ok dir := by
      rw [← followAll_singleton]
      exact hfollow
    have hdir := (follow_cases hstay).1
    rw [follow_stay hdir (.inl rfl)] at hstay
    cases hstay
    exact ⟨front, last, dir, hpieces, hname, Nat.le_of_not_lt hlimit, hfront, hdir, rfl, hfile⟩

/-- A path leads to its destination once something has been put there, in every tree that keeps the
directories. -/
theorem resolve_of_destination {t after : FileTree} {p : Path} {dest : Location}
    (h : t.destination p = .ok dest)
    (hkept : ∀ loc, t.at? loc = some .directory → after.at? loc = some .directory)
    (hhome : after.home = t.home) (hdest : (after.at? dest).isSome) : after.resolve p = .ok dest := by
  obtain ⟨⟨hnul, hempty, hlong⟩, -⟩ := destination_cases h
  obtain ⟨front, last, dir, hpieces, hname, hlimit, hfront, hdir, rfl, -⟩ := exists_of_destination h
  have horigin : after.origin p = t.origin p := by rw [origin, origin, hhome]
  have hsome : (after.at? dir).isSome := by
    rw [hkept dir hdir]
    rfl
  rw [resolve, hnul, hempty, hlong, horigin, hpieces, followAll_append,
    followAll_mono hkept hfront hsome]
  show after.followAll dir [last] = _
  rw [followAll_singleton, follow_name (hkept dir hdir) hname hlimit hdest]

/-! ### Replacing a file -/

/-- A staged file is moved to where no directory is. -/
theorem Staged.at?_destination_ne {t staged : FileTree} {p : Path} {source dest : Location}
    {content : List UInt8} {mode : Nat} (h : Staged t staged source (.file content mode))
    (hdest : staged.destination p = .ok dest) : dest ≠ [] ∧ t.at? dest ≠ some .directory := by
  obtain ⟨_, _, _, -, -, -, -, -, rfl, hfile⟩ := exists_of_destination hdest
  exact ⟨List.cons_ne_nil _ _, mt h.at?_eq_directory_iff.2 hfile⟩

/-- **Replacing a file is all or nothing**, whatever is refused on the way. Either an obstacle is reported
and the tree has only gained directories, or afterwards the path leads to the new file, and apart from
that file the tree has only gained directories. -/
theorem replaceFile_cases (t : FileTree) (w : Stager) (p : Path) (content : List UInt8) :
    (∃ after obstacle, t.replaceFile w p content = (after, some obstacle) ∧ Grown t after) ∨
      ∃ made dest, t.replaceFile w p content = (made.put dest (.file content writtenMode), none) ∧
        Grown t made ∧ dest ≠ [] ∧ made.at? dest ≠ some .directory ∧
        (made.put dest (.file content writtenMode)).resolve p = .ok dest := by
  rw [replaceFile]
  split
  · exact .inl ⟨t, _, rfl, Grown.refl t⟩
  split
  · exact .inl ⟨t, _, rfl, Grown.refl t⟩
  have hgrown := makeDirectories_grown p.directory t t.home false
  split
  · rename_i made obstacle hmade
    rw [hmade] at hgrown
    exact .inl ⟨made, obstacle, rfl, hgrown⟩
  rename_i made dir hmade
  rw [hmade] at hgrown
  rcases stage_cases made w (heldIn p) dir content with
    ⟨-, obstacle, hstage⟩ | ⟨-, staged, source, hstaged, hstage⟩
  · rw [hstage]
    exact .inl ⟨made, obstacle, rfl, hgrown⟩
  rw [hstage]
  dsimp only
  split
  · rename_i obstacle hdest
    rw [hstaged.unlink_eq]
    exact .inl ⟨made, obstacle, rfl, hgrown⟩
  · rename_i dest hdest
    obtain ⟨hne, hdirectory⟩ := hstaged.at?_destination_ne hdest
    have hself := at?_put_self made (.file content writtenMode) hne
    refine .inr ⟨made, dest, by rw [hstaged.rename_eq], hgrown, hne, hdirectory, ?_⟩
    refine resolve_of_destination hdest ?_ hstaged.home_eq.symm (by rw [hself]; rfl)
    intro loc hloc
    exact at?_put_eq_directory _ hdirectory (hstaged.at?_eq_directory_iff.1 hloc)

end FileTree

end BuildPlan
