import BuildPlan.Proofs.Files.Replacing

/-!
# Replacing a file twice

Replacing a file changes the tree in which the file is replaced the next time: directories have been
made, and the file itself is there. Neither gets in the way. Where a file has been replaced, it can be
replaced again under the same path, and it is the same file that is replaced.

* `FileTree.Kept` — directories stay directories and files stay files, though maybe others; `isFile_mono`
  says that a path that leads to a file goes on to do so.
* `makeDirectories_again` — where all directories on the way are there, none is made.
* `destination_eq_ok`, `destination_mono` — a path a file can be moved to remains one.
* `replaceFile_inversion` — all that is known where replacing a file has succeeded; `size_lt_of_replaceFile`
  says that the path has left room for the temporary file's name.
* **`replaceFile_again`** — it succeeds again with any content that is not refused, and leads to the
  same place; `replaceFile_same` says that writing the same once more changes nothing.
-/

namespace BuildPlan

namespace FileTree

/-- The tree `after` keeps what `before` has: directories stay directories, and files stay files, though
maybe others. -/
structure Kept (before after : FileTree) : Prop where
  /-- The working directory is the same. -/
  home_eq : after.home = before.home
  /-- Directories stay directories. -/
  at?_directory : ∀ {loc}, before.at? loc = some .directory → after.at? loc = some .directory
  /-- Files stay files. -/
  at?_file : ∀ {loc content mode}, before.at? loc = some (.file content mode) →
    ∃ content' mode', after.at? loc = some (.file content' mode')

variable {t made after : FileTree} {p : Path}

/-- A tree that has grown keeps what it had. -/
theorem Grown.kept (h : Grown t after) : Kept t after where
  home_eq := h.home_eq
  at?_directory := h.at?_eq_some
  at?_file hfile := ⟨_, _, h.at?_eq_some hfile⟩

theorem Kept.trans (h : Kept t made) (h' : Kept made after) : Kept t after where
  home_eq := h'.home_eq.trans h.home_eq
  at?_directory hdirectory := h'.at?_directory (h.at?_directory hdirectory)
  at?_file hfile := by
    obtain ⟨content', mode', hfile'⟩ := h.at?_file hfile
    exact h'.at?_file hfile'

/-- A file put where no directory is takes nothing away. -/
theorem Kept.put_file {dest : Location} (hdest : t.at? dest ≠ some .directory)
    (content : List UInt8) (mode : Nat) : Kept t (t.put dest (.file content mode)) where
  home_eq := rfl
  at?_directory hloc := at?_put_eq_directory _ hdest hloc
  at?_file {loc content' mode'} hfile := by
    by_cases heq : loc = dest
    · subst heq
      have hne : loc ≠ [] := by
        rintro rfl
        cases hfile
      exact ⟨content, mode, at?_put_self t _ hne⟩
    · exact ⟨content', mode', by rw [at?_put_of_ne t _ heq, hfile]⟩

theorem isFile_mono (h : Kept t after) (hp : t.isFile p = true) : after.isFile p = true := by
  rw [isFile] at hp
  cases hfound : t.find? p with
  | none =>
    rw [hfound] at hp
    cases hp
  | some e =>
    obtain ⟨loc, hloc, hat⟩ := exists_of_find?_eq_some hfound
    cases e with
    | directory =>
      rw [hfound] at hp
      cases hp
    | file content mode =>
      obtain ⟨content', mode', hat'⟩ := h.at?_file hat
      have hresolve := resolve_mono (fun _ => h.at?_directory) h.home_eq hloc (by rw [hat']; rfl)
      rw [isFile, find?, hresolve]
      show (after.at? loc).any Entry.isFile = true
      rw [hat']
      rfl

/-! ### Making directories again -/

/-- **Where the directories on the way are there, none is made**: the same location is reached and the
tree stays as it is. -/
theorem makeDirectories_again {cs : List Component} {loc dir : Location} {fresh : Bool}
    (h : t.makeDirectories loc fresh cs = (made, .ok dir))
    (hkept : ∀ other, made.at? other = some .directory → after.at? other = some .directory)
    (fresh' : Bool) : after.makeDirectories loc fresh' cs = (after, .ok dir) := by
  induction cs generalizing t loc fresh with
  | nil =>
    cases h
    rfl
  | cons c rest ih =>
    cases c with
    | root => exact ih h
    | current => exact ih h
    | parent => exact ih h
    | name s =>
      rw [makeDirectories] at h ⊢
      split at h
      · cases h
      rename_i hlimit
      rw [if_neg hlimit]
      -- The directory is there in the tree that was made, be it old or new.
      cases hat : t.at? (s :: loc) with
      | none =>
        rw [hat] at h
        have hgrown := makeDirectories_grown rest (t.put (s :: loc) .directory) (s :: loc) true
        rw [show (t.put (s :: loc) .directory).makeDirectories (s :: loc) true rest = _ from h]
          at hgrown
        have hself := at?_put_self t .directory (List.cons_ne_nil s loc)
        rw [hkept _ (hgrown.at?_eq_some hself)]
        exact ih h
      | some e =>
        rw [hat] at h
        cases e with
        | file content mode => cases h
        | directory =>
          have hgrown := makeDirectories_grown rest t (s :: loc) fresh
          rw [show t.makeDirectories (s :: loc) fresh rest = _ from h] at hgrown
          rw [hkept _ (hgrown.at?_eq_some hat)]
          exact ih h

/-! ### The destination again -/

/-- **What it takes for a path to be one that a file can be moved to.** This is the converse of
`exists_of_destination`. -/
theorem destination_eq_ok {front : List (List Char)} {last : List Char} {dir : Location}
    (hnul : holdsNul p = false) (hempty : p.text.isEmpty = false)
    (hlong : isTooLong p.text.toList = false) (hpieces : p.pieces = front ++ [last])
    (hname : IsName last) (hlimit : Utf8.size last ≤ nameLimit)
    (hfront : t.followAll (t.origin p) front = .ok dir) (hdir : t.at? dir = some .directory)
    (hfile : t.at? (String.ofList last :: dir) ≠ some .directory) :
    t.destination p = .ok (String.ofList last :: dir) := by
  obtain ⟨hnil, hdot, hdots⟩ := hname
  have hwithout : withoutTrailingSlash p.pieces = front ++ [last] := by
    rw [hpieces, withoutTrailingSlash_append_singleton hnil]
  have hfollow : t.followAll (t.origin p) (front ++ [[]]) = .ok dir := by
    rw [followAll_append, hfront]
    show t.followAll dir [[]] = _
    rw [followAll_singleton, follow_stay hdir (.inl rfl)]
  have hstay : ¬ (last = ['.'] ∨ last = ['.', '.']) := not_or.2 ⟨hdot, hdots⟩
  have hslash : ¬ p.pieces.getLast? = some [] := by
    rw [hpieces, List.getLast?_concat]
    exact fun heq => hnil (Option.some.inj heq)
  rw [destination, hnul, hempty, hlong, hwithout]
  simp only [Bool.false_eq_true, if_false, List.getLast?_concat, List.dropLast_concat, hfollow]
  rw [if_neg hstay, if_neg (Nat.not_lt.2 hlimit), if_neg hslash, if_neg hfile]

/-- A path that a file can be moved to remains one, with the same destination, if directories stay
directories and the destination becomes none. -/
theorem destination_mono {dest : Location} (h : t.destination p = .ok dest)
    (hhome : after.home = t.home)
    (hkept : ∀ loc, t.at? loc = some .directory → after.at? loc = some .directory)
    (hfile : after.at? dest ≠ some .directory) : after.destination p = .ok dest := by
  obtain ⟨⟨hnul, hempty, hlong⟩, -⟩ := destination_cases h
  obtain ⟨front, last, dir, hpieces, hname, hlimit, hfront, hdir, rfl, -⟩ := exists_of_destination h
  have horigin : after.origin p = t.origin p := by rw [origin, origin, hhome]
  have hsome : (after.at? dir).isSome := by
    rw [hkept dir hdir]
    rfl
  have hfront' : after.followAll (after.origin p) front = .ok dir := by
    rw [horigin]
    exact followAll_mono hkept hfront hsome
  exact destination_eq_ok hnul hempty hlong hpieces hname hlimit hfront' (hkept dir hdir) hfile

/-! ### Replacing a file again -/

variable {w : Stager} {content : List UInt8}

/-- **What is known where replacing a file has succeeded**: the directories on its way were made, no
step was refused, the temporary file had a destination, and that is where the file is. -/
theorem replaceFile_inversion (h : t.replaceFile w p content = (after, none)) :
    componentsHoldNul p.directory = false ∧ isTooLong p.directoryText = false ∧
      ∃ made dir staged source dest, t.makeDirectories t.home false p.directory = (made, .ok dir) ∧
        w.Allows t.home (heldIn p) content ∧
        Staged made staged source (.file content writtenMode) ∧ staged.destination p = .ok dest ∧
        after = made.put dest (.file content writtenMode) := by
  rw [replaceFile] at h
  split at h
  · cases h
  rename_i hnul
  split at h
  · cases h
  rename_i hlong
  refine ⟨eq_false_of_ne_true hnul, eq_false_of_ne_true hlong, ?_⟩
  have hgrown := makeDirectories_grown p.directory t t.home false
  split at h
  · cases h
  rename_i made dir hmade
  rw [hmade] at hgrown
  rcases stage_cases made w (heldIn p) dir content with
    ⟨-, obstacle, hstage⟩ | ⟨hallows, staged, source, hstaged, hstage⟩
  · rw [hstage] at h
    cases h
  rw [hstage] at h
  dsimp only at h
  split at h
  · cases h
  rename_i dest hdest
  rw [hstaged.rename_eq] at h
  cases h
  rw [hgrown.home_eq] at hallows
  exact ⟨made, dir, staged, source, dest, hmade, hallows, hstaged, hdest, rfl⟩

/-- What it takes for replacing a file to succeed, whichever name the temporary file gets. -/
theorem replaceFile_eq {dir dest : Location}
    (hnul : componentsHoldNul p.directory = false) (hlong : isTooLong p.directoryText = false)
    (hmade : t.makeDirectories t.home false p.directory = (made, .ok dir))
    (hallows : w.Allows made.home (heldIn p) content)
    (hdest : ∀ staged source, Staged made staged source (.file content writtenMode) →
      staged.destination p = .ok dest) :
    t.replaceFile w p content = (made.put dest (.file content writtenMode), none) := by
  rw [replaceFile, hnul, hlong, hmade]
  simp only [Bool.false_eq_true, if_false]
  rcases stage_cases made w (heldIn p) dir content with
    ⟨hrefused, -⟩ | ⟨-, staged, source, hstaged, hstage⟩
  · exact absurd hallows hrefused
  · rw [hstage]
    dsimp only
    rw [hdest staged source hstaged]
    dsimp only
    rw [hstaged.rename_eq]

/-- A path under which a file is replaced leaves room for the temporary file's name. -/
theorem size_lt_of_replaceFile (h : t.replaceFile w p content = (after, none)) :
    Utf8.size (heldIn p).text.toList + nameRoom < pathLimit := by
  obtain ⟨-, -, _, _, _, _, _, -, ⟨hcreation, -⟩, -⟩ := replaceFile_inversion h
  by_contra hroom
  have hsome := w.creation?_of_long t.home (heldIn p) (Nat.le_of_not_lt hroom)
  rw [hcreation] at hsome
  cases hsome

/-- Replacing a file keeps all directories and files, though one file may be another afterwards. -/
theorem replaceFile_kept (h : t.replaceFile w p content = (after, none)) : Kept t after := by
  obtain ⟨-, -, made, dir, staged, source, dest, hmade, -, hstaged, hdest, rfl⟩ :=
    replaceFile_inversion h
  have hgrown := makeDirectories_grown p.directory t t.home false
  rw [hmade] at hgrown
  exact hgrown.kept.trans (Kept.put_file (hstaged.at?_destination_ne hdest).2 content writtenMode)

/-- **A file that has been replaced can be replaced again**, with any content that is not refused. It is
found at the same place, and nothing but the file itself is touched. -/
theorem replaceFile_again (h : t.replaceFile w p content = (after, none)) {content' : List UInt8}
    (hallows : w.Allows t.home (heldIn p) content') :
    ∃ dest, after.resolve p = .ok dest ∧ after.at? dest = some (.file content writtenMode) ∧
      after.replaceFile w p content' = (after.put dest (.file content' writtenMode), none) := by
  have hhome := (replaceFile_kept h).home_eq
  obtain ⟨hnul, hlong, made, dir, staged, source, dest, hmade, -, hstaged, hdest, rfl⟩ :=
    replaceFile_inversion h
  obtain ⟨hne, hdirectory⟩ := hstaged.at?_destination_ne hdest
  have hkept := Kept.put_file hdirectory content writtenMode
  have hself := at?_put_self made (.file content writtenMode) hne
  have hagain := makeDirectories_again hmade (fun _ => hkept.at?_directory) false
  rw [← hhome] at hagain
  have hresolve : (made.put dest (.file content writtenMode)).resolve p = .ok dest :=
    resolve_of_destination hdest
      (fun loc hloc => hkept.at?_directory (hstaged.at?_eq_directory_iff.1 hloc))
      hstaged.home_eq.symm (by rw [hself]; rfl)
  rw [← hhome] at hallows
  refine ⟨dest, hresolve, hself, replaceFile_eq hnul hlong hagain hallows ?_⟩
  -- The temporary files may differ, but neither of them is a directory or takes one away.
  intro staged' source' hstaged'
  refine destination_mono hdest ?_ ?_ ?_
  · rw [hstaged'.home_eq, hstaged.home_eq]
    rfl
  · intro loc hloc
    exact hstaged'.at?_eq_directory_iff.2 (hkept.at?_directory (hstaged.at?_eq_directory_iff.1 hloc))
  · intro hloc
    rw [hstaged'.at?_eq_directory_iff, hself] at hloc
    cases hloc

/-- **Replacing a file by what it is changes nothing.** -/
theorem replaceFile_same (h : t.replaceFile w p content = (after, none)) :
    ∃ dest again, after.resolve p = .ok dest ∧ after.at? dest = some (.file content writtenMode) ∧
      after.replaceFile w p content = (again, none) ∧ again.home = after.home ∧
      ∀ loc, again.at? loc = after.at? loc := by
  obtain ⟨-, -, _, _, _, _, _, -, hallows, -⟩ := replaceFile_inversion h
  obtain ⟨dest, hresolve, hfile, hagain⟩ := replaceFile_again h hallows
  refine ⟨dest, _, hresolve, hfile, hagain, rfl, ?_⟩
  intro loc
  by_cases heq : loc = dest
  · subst heq
    have hne : loc ≠ [] := by
      rintro rfl
      cases hfile
    rw [at?_put_self after _ hne, hfile]
  · exact at?_put_of_ne after _ heq

end FileTree

end BuildPlan
