import BuildPlan.Files.Replace

/-!
# Trees that gain directories

Before a file is written the directories on its way are made. Nothing else happens to the tree then,
and this file says so once and for all, so that later proofs speak about trees that have *grown* and
not about how directories are made.

* `FileTree.Grown` — one tree has everything that another has, and besides that only directories.
* `Grown.at?_eq_some`, `Grown.at?_eq_file_iff` — what was there is there still, and its files are the
  same ones.
* **`makeDirectories_grown`** — making directories lets a tree grow, also if it stops at an obstacle.
* `follow_cases` — the ways in which one piece of a path is followed.
* **`resolve_mono`** — where all directories are kept, a path leads where it led before.
-/

namespace BuildPlan

namespace FileTree

/-- The tree `after` has everything that `before` has, and besides that only directories. -/
structure Grown (before after : FileTree) : Prop where
  /-- The working directory is the same. -/
  home_eq : after.home = before.home
  /-- Every place is as it was, or a directory has been made there. -/
  at?_cases : ∀ loc, after.at? loc = before.at? loc ∨
    (before.at? loc = none ∧ after.at? loc = some .directory)

namespace Grown

variable {t before after : FileTree}

theorem refl (t : FileTree) : Grown t t := ⟨rfl, fun _ => .inl rfl⟩

theorem trans {middle : FileTree} (h : Grown before middle) (h' : Grown middle after) :
    Grown before after := by
  refine ⟨h'.home_eq.trans h.home_eq, ?_⟩
  intro loc
  rcases h'.at?_cases loc with heq | ⟨hnone, hmade⟩
  · rw [heq]
    exact h.at?_cases loc
  · rcases h.at?_cases loc with heq | ⟨-, hdir⟩
    · exact .inr ⟨heq.symm.trans hnone, hmade⟩
    · rw [hnone] at hdir
      cases hdir

/-- A directory put where nothing is. -/
theorem put_directory {loc : Location} (h : t.at? loc = none) : Grown t (t.put loc .directory) := by
  refine ⟨rfl, ?_⟩
  intro other
  by_cases heq : other = loc
  · subst heq
    have hne : other ≠ [] := by
      rintro rfl
      cases h
    exact .inr ⟨h, at?_put_self t .directory hne⟩
  · exact .inl (at?_put_of_ne t .directory heq)

theorem at?_eq_some (h : Grown before after) {loc : Location} {e : Entry}
    (he : before.at? loc = some e) : after.at? loc = some e := by
  rcases h.at?_cases loc with heq | ⟨hnone, -⟩
  · rw [heq, he]
  · rw [he] at hnone
    cases hnone

/-- The files are the same ones, with the same bytes and permission bits. -/
theorem at?_eq_file_iff (h : Grown before after) {loc : Location} {content : List UInt8} {mode : Nat} :
    after.at? loc = some (.file content mode) ↔ before.at? loc = some (.file content mode) := by
  constructor
  · intro hfile
    rcases h.at?_cases loc with heq | ⟨-, hdir⟩
    · rw [← heq, hfile]
    · rw [hdir] at hfile
      cases hfile
  · exact h.at?_eq_some

end Grown

/-- Where no directory is, something can be put without taking one away. -/
theorem at?_put_eq_directory {t : FileTree} {dest loc : Location} (e : Entry)
    (hdest : t.at? dest ≠ some .directory) (hloc : t.at? loc = some .directory) :
    (t.put dest e).at? loc = some .directory := by
  have hne : loc ≠ dest := by
    rintro rfl
    exact hdest hloc
  rw [at?_put_of_ne t e hne, hloc]

/-! ### Making directories -/

/-- **Making directories lets a tree grow**, also if it stops at an obstacle. -/
theorem makeDirectories_grown (cs : List Component) (t : FileTree) (loc : Location) (fresh : Bool) :
    Grown t (t.makeDirectories loc fresh cs).1 := by
  induction cs generalizing t loc fresh with
  | nil => exact Grown.refl t
  | cons c rest ih =>
    cases c with
    | root => exact ih t [] fresh
    | current => exact ih t loc fresh
    | parent => exact ih t loc.tail fresh
    | name s =>
      rw [makeDirectories]
      split
      · exact Grown.refl t
      · cases hat : t.at? (s :: loc) with
        | none => exact (Grown.put_directory hat).trans (ih _ (s :: loc) true)
        | some e =>
          cases e with
          | directory => exact ih t (s :: loc) fresh
          | file content mode => exact Grown.refl t

/-! ### Following paths where directories are kept -/

/-- What a path leads to is at the location that it leads to. -/
theorem exists_of_find?_eq_some {t : FileTree} {p : Path} {e : Entry} (h : t.find? p = some e) :
    ∃ loc, t.resolve p = .ok loc ∧ t.at? loc = some e := by
  rw [find?] at h
  split at h
  · cases h
  · rename_i loc hloc
    exact ⟨loc, hloc, h⟩

/-- The piece is a name, and neither nothing nor a dot nor two of them. -/
def IsName (piece : List Char) : Prop := piece ≠ [] ∧ piece ≠ ['.'] ∧ piece ≠ ['.', '.']

section

variable {t after : FileTree}

/-- From a directory, no name and a dot lead nowhere else. -/
theorem follow_stay {loc : Location} {piece : List Char} (hdir : t.at? loc = some .directory)
    (h : piece = [] ∨ piece = ['.']) : t.follow loc piece = .ok loc := by
  rw [follow, hdir]
  show (if piece = [] ∨ piece = ['.'] then _ else _) = _
  rw [if_pos h]

/-- From a directory, two dots lead to the directory around it. -/
theorem follow_up {loc : Location} (hdir : t.at? loc = some .directory) :
    t.follow loc ['.', '.'] = .ok loc.tail := by
  rw [follow, hdir]
  rfl

/-- From a directory, the name of something in it leads there. -/
theorem follow_name {loc : Location} {piece : List Char} (hdir : t.at? loc = some .directory)
    (h : IsName piece) (hlimit : Utf8.size piece ≤ nameLimit)
    (hsome : (t.at? (String.ofList piece :: loc)).isSome) :
    t.follow loc piece = .ok (String.ofList piece :: loc) := by
  obtain ⟨hnil, hdot, hdots⟩ := h
  have hstay : ¬ (piece = [] ∨ piece = ['.']) := by
    rintro (heq | heq)
    · exact hnil heq
    · exact hdot heq
  rw [follow, hdir]
  show (if piece = [] ∨ piece = ['.'] then _ else _) = _
  rw [if_neg hstay, if_neg hdots, if_neg (Nat.not_lt.2 hlimit), if_pos hsome]

/-- **These are all the ways in which a piece is followed**, each of them from a directory. -/
theorem follow_cases {loc next : Location} {piece : List Char} (h : t.follow loc piece = .ok next) :
    t.at? loc = some .directory ∧
      (((piece = [] ∨ piece = ['.']) ∧ next = loc) ∨
        (piece = ['.', '.'] ∧ next = loc.tail) ∨
        (IsName piece ∧ Utf8.size piece ≤ nameLimit ∧ next = String.ofList piece :: loc ∧
          (t.at? next).isSome)) := by
  rw [follow] at h
  split at h
  · cases h
  · cases h
  · rename_i hdir
    refine ⟨hdir, ?_⟩
    split at h
    · rename_i hstay
      cases h
      exact .inl ⟨hstay, rfl⟩
    · rename_i hstay
      split at h
      · rename_i hup
        cases h
        exact .inr (.inl ⟨hup, rfl⟩)
      · rename_i hup
        split at h
        · cases h
        · rename_i hlimit
          split at h
          · rename_i hsome
            cases h
            have hname : IsName piece := ⟨fun heq => hstay (.inl heq), fun heq => hstay (.inr heq), hup⟩
            exact .inr (.inr ⟨hname, Nat.le_of_not_lt hlimit, rfl, hsome⟩)
          · cases h

/-- What is followed in one tree is followed in another where the start is a directory as well and
where the goal exists. -/
theorem follow_mono {loc next : Location} {piece : List Char} (h : t.follow loc piece = .ok next)
    (hstart : after.at? loc = some .directory) (hgoal : (after.at? next).isSome) :
    after.follow loc piece = .ok next := by
  obtain ⟨-, ⟨hstay, rfl⟩ | ⟨rfl, rfl⟩ | ⟨hname, hlimit, rfl, -⟩⟩ := follow_cases h
  · exact follow_stay hstart hstay
  · exact follow_up hstart
  · exact follow_name hstart hname hlimit hgoal

theorem followAll_append (t : FileTree) (loc : Location) (front back : List (List Char)) :
    t.followAll loc (front ++ back) =
      (t.followAll loc front).bind fun middle => t.followAll middle back := by
  induction front generalizing loc with
  | nil => rfl
  | cons piece rest ih =>
    rw [List.cons_append, followAll, followAll]
    cases t.follow loc piece with
    | error obstacle => rfl
    | ok next => exact ih next

theorem followAll_singleton (t : FileTree) (loc : Location) (piece : List Char) :
    t.followAll loc [piece] = t.follow loc piece := by
  rw [followAll]
  cases t.follow loc piece with
  | error obstacle => rfl
  | ok next => rfl

/-- **Where all directories are kept, pieces lead where they led before**, as long as there is still
something there. All places on the way are directories, since the next piece is followed from them. -/
theorem followAll_mono (hkept : ∀ loc, t.at? loc = some .directory → after.at? loc = some .directory)
    {pieces : List (List Char)} {loc goal : Location} (h : t.followAll loc pieces = .ok goal)
    (hgoal : (after.at? goal).isSome) : after.followAll loc pieces = .ok goal := by
  induction pieces generalizing loc with
  | nil => exact h
  | cons piece rest ih =>
    rw [followAll] at h ⊢
    cases hnext : t.follow loc piece with
    | error obstacle =>
      rw [hnext] at h
      cases h
    | ok next =>
      rw [hnext] at h
      simp only at h
      have hsome : (after.at? next).isSome := by
        cases rest with
        | nil =>
          cases h
          exact hgoal
        | cons piece' rest' =>
          rw [followAll] at h
          cases hnext' : t.follow next piece' with
          | error obstacle =>
            rw [hnext'] at h
            cases h
          | ok next' =>
            rw [hkept next (follow_cases hnext').1]
            rfl
      rw [follow_mono hnext (hkept loc (follow_cases hnext).1) hsome]
      exact ih h

/-- The same for a whole path. -/
theorem resolve_mono (hkept : ∀ loc, t.at? loc = some .directory → after.at? loc = some .directory)
    (hhome : after.home = t.home) {p : Path} {goal : Location} (h : t.resolve p = .ok goal)
    (hgoal : (after.at? goal).isSome) : after.resolve p = .ok goal := by
  rw [resolve] at h ⊢
  split at h
  · cases h
  · rename_i hnul
    rw [if_neg hnul]
    split at h
    · cases h
    · rename_i hempty
      rw [if_neg hempty]
      split at h
      · cases h
      · rename_i hlong
        rw [if_neg hlong]
        have horigin : after.origin p = t.origin p := by rw [origin, origin, hhome]
        rw [horigin]
        exact followAll_mono hkept h hgoal

end

end FileTree

end BuildPlan
