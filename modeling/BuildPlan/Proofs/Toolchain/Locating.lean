import BuildPlan.Proofs.Toolchain.Entries
import BuildPlan.Toolchain.Probe

/-!
# Which helper is found

The helper is looked for in the directory of one entry after the other, under one name after the other.
What is found is the first in the order of the entries, and for one entry in the order of the names. So an
entry that leads to nothing might as well not be there.

* `FileTree.Runnable` — a path leads to a regular file that may be run.
* `SearchPath.Hit` — the entry and the name at two positions give the path of such a file.
* `SearchPath.hitUnder?`, `SearchPath.hitIn?` — what is found under one name, and what one entry leads to;
  `find?_ofBytes` says that the search asks one entry after the other.
* `find?_eq_some_iff` — the path that is found is that of the least hit.
* `hitIn?_eq_none_iff`, `find?_without` — entries that lead to nothing, and the search without one.
* **`locate_outcome`** — when a helper is found, which one, and what can be taken away.
-/

namespace BuildPlan

/-- The path leads to a regular file, with one of the bits that let a file be run. -/
def FileTree.Runnable (tree : FileTree) (p : Path) : Prop :=
  ∃ loc content mode, tree.resolve p = .ok loc ∧ tree.at? loc = some (.file content mode) ∧
    mode &&& Entry.runBits ≠ 0

theorem FileTree.isExecutable_iff {tree : FileTree} {p : Path} :
    tree.isExecutable p = true ↔ tree.Runnable p := by
  rw [isExecutable, find?, Runnable]
  cases tree.resolve p with
  | error obstacle => simp
  | ok loc =>
    simp only [Except.ok.injEq, exists_and_left, exists_eq_left']
    cases tree.at? loc with
    | none => simp
    | some entry =>
      cases entry with
      | directory => simp [Entry.isExecutable]
      | file content mode => simp [Entry.isExecutable]

namespace SearchPath

variable {raw : List UInt8} {workingDirectory : Option Path} {tree : FileTree} {names : List String}
  {p : Path}

/-- The entry at one position is text, and under the name at another position its directory holds a file
that may be run. -/
def Hit (raw : List UInt8) (workingDirectory : Option Path) (tree : FileTree) (names : List String)
    (i j : Nat) (p : Path) : Prop :=
  ∃ text name, (entries raw)[i]? = some (Utf8.encode text) ∧ names[j]? = some name ∧
    p = (directoryOf workingDirectory text).join ⟨name⟩ ∧ tree.Runnable p

/-! ### One entry after the other -/

/-- A search finds what comes of the first element that anything comes of. -/
theorem findSome?_eq_some_iff_getElem? {α β : Type} {f : α → Option β} {xs : List α} {b : β} :
    xs.findSome? f = some b ↔
      ∃ (i : Nat) (a : α), xs[i]? = some a ∧ f a = some b ∧
        ∀ k < i, ∀ c, xs[k]? = some c → f c = none := by
  rw [List.findSome?_eq_some_iff]
  constructor
  · rintro ⟨before, a, after, rfl, hb, hbefore⟩
    refine ⟨before.length, a, by simp, hb, fun k hk c hc => ?_⟩
    rw [List.getElem?_append_left hk] at hc
    exact hbefore c (List.mem_of_getElem? hc)
  · rintro ⟨i, a, ha, hb, hbefore⟩
    obtain ⟨hi, hget⟩ := List.getElem?_eq_some_iff.1 ha
    refine ⟨xs.take i, a, xs.drop (i + 1), ?_, hb, fun c hc => ?_⟩
    · rw [← hget, List.getElem_cons_drop, List.take_append_drop]
    · obtain ⟨k, hk⟩ := List.mem_iff_getElem?.1 hc
      have hlt : k < i := by
        obtain ⟨hlength, -⟩ := List.getElem?_eq_some_iff.1 hk
        exact lt_of_lt_of_le hlength (List.length_take_le i xs)
      rw [List.getElem?_take_of_lt hlt] at hk
      exact hbefore k hlt c hk

/-- What the search finds in the directory of an entry under one name. -/
def hitUnder? (workingDirectory : Option Path) (tree : FileTree) (text name : String) : Option Path :=
  if tree.isExecutable ((directoryOf workingDirectory text).join ⟨name⟩) then
    some ((directoryOf workingDirectory text).join ⟨name⟩)
  else none

/-- What the search finds at one entry. -/
def hitIn? (workingDirectory : Option Path) (tree : FileTree) (names : List String) (entry : List UInt8) :
    Option Path :=
  (Utf8.decode entry).bind fun text => names.findSome? (hitUnder? workingDirectory tree text)

theorem hitUnder?_eq_some_iff {text name : String} :
    hitUnder? workingDirectory tree text name = some p ↔
      p = (directoryOf workingDirectory text).join ⟨name⟩ ∧ tree.Runnable p := by
  rw [hitUnder?, Option.ite_none_right_eq_some, FileTree.isExecutable_iff, Option.some.injEq]
  constructor
  · rintro ⟨hrunnable, rfl⟩
    exact ⟨rfl, hrunnable⟩
  · rintro ⟨rfl, hrunnable⟩
    exact ⟨hrunnable, rfl⟩

/-- **The search asks one entry after the other**, and at each entry for one name after the other. -/
theorem find?_ofBytes (raw : List UInt8) (workingDirectory : Option Path) (tree : FileTree)
    (names : List String) :
    (ofBytes raw workingDirectory).find? tree names =
      (entries raw).findSome? (hitIn? workingDirectory tree names) := by
  have hnames : ∀ text, (names.map fun name => (directoryOf workingDirectory text).join ⟨name⟩).find?
      tree.isExecutable = names.findSome? (hitUnder? workingDirectory tree text) := by
    intro text
    induction names with
    | nil => rfl
    | cons name names ih =>
      rw [List.map_cons, List.find?_cons, List.findSome?_cons, ih, hitUnder?]
      cases tree.isExecutable ((directoryOf workingDirectory text).join ⟨name⟩) <;> rfl
  rw [find?, ofBytes]
  induction entries raw with
  | nil => rfl
  | cons e es ih =>
    rw [List.findSome?_cons, hitIn?]
    cases hdecode : Utf8.decode e with
    | none =>
      rw [List.filterMap_cons_none (by rw [hdecode]; rfl)]
      exact ih
    | some text =>
      rw [List.filterMap_cons_some (by rw [hdecode]; rfl), List.findSome?_cons, ih, hnames]
      rfl

theorem hit_iff {i j : Nat} :
    Hit raw workingDirectory tree names i j p ↔
      ∃ entry text name, (entries raw)[i]? = some entry ∧ Utf8.decode entry = some text ∧
        names[j]? = some name ∧ hitUnder? workingDirectory tree text name = some p := by
  simp only [Hit, hitUnder?_eq_some_iff, Utf8.decode_eq_some_iff]
  constructor
  · rintro ⟨text, name, hentry, hname, hp⟩
    exact ⟨_, text, name, hentry, rfl, hname, hp⟩
  · rintro ⟨_, text, name, hentry, rfl, hname, hp⟩
    exact ⟨text, name, hentry, hname, hp⟩

/-- **The path that is found is that of the least hit.** -/
theorem find?_eq_some_iff :
    (ofBytes raw workingDirectory).find? tree names = some p ↔
      ∃ i j, Hit raw workingDirectory tree names i j p ∧
        ∀ i' j' p', Hit raw workingDirectory tree names i' j' p' → i < i' ∨ i = i' ∧ j ≤ j' := by
  simp only [hit_iff]
  rw [find?_ofBytes, findSome?_eq_some_iff_getElem?]
  constructor
  · rintro ⟨i, entry, hentry, hp, hentries⟩
    obtain ⟨text, htext, hp⟩ := Option.bind_eq_some_iff.1 hp
    obtain ⟨j, name, hname, hp, hnames⟩ := findSome?_eq_some_iff_getElem?.1 hp
    refine ⟨i, j, ⟨entry, text, name, hentry, htext, hname, hp⟩, ?_⟩
    rintro i' j' p' ⟨entry', text', name', hentry', htext', hname', hp'⟩
    rcases lt_trichotomy i i' with hlt | rfl | hlt
    · exact .inl hlt
    · -- at the same entry no earlier name gives anything
      refine .inr ⟨rfl, Nat.not_lt.1 fun hlt => ?_⟩
      obtain rfl : entry = entry' := Option.some.inj (hentry.symm.trans hentry')
      obtain rfl : text = text' := Option.some.inj (htext.symm.trans htext')
      rw [hnames j' hlt name' hname'] at hp'
      cases hp'
    · -- at an earlier entry no name gives anything
      have hnone := hentries i' hlt entry' hentry'
      rw [hitIn?, htext', Option.bind_some, List.findSome?_eq_none_iff] at hnone
      rw [hnone name' (List.mem_of_getElem? hname')] at hp'
      cases hp'
  · rintro ⟨i, j, ⟨entry, text, name, hentry, htext, hname, hp⟩, hleast⟩
    refine ⟨i, entry, hentry, ?_, fun k hk other hother => ?_⟩
    · rw [hitIn?, htext, Option.bind_some, findSome?_eq_some_iff_getElem?]
      refine ⟨j, name, hname, hp, fun k hk other hother => ?_⟩
      rw [Option.eq_none_iff_forall_ne_some]
      intro p' hp'
      have hle := hleast i k p' ⟨entry, text, other, hentry, htext, hother, hp'⟩
      omega
    · rw [Option.eq_none_iff_forall_ne_some]
      intro p' hp'
      obtain ⟨text', htext', hp'⟩ := Option.bind_eq_some_iff.1 hp'
      obtain ⟨j', name', hname', hp', -⟩ := findSome?_eq_some_iff_getElem?.1 hp'
      have hle := hleast k j' p' ⟨other, text', name', hother, htext', hname', hp'⟩
      omega

/-- Some path is found exactly if there is a hit. -/
theorem exists_find?_iff :
    (∃ p, (ofBytes raw workingDirectory).find? tree names = some p) ↔
      ∃ i j p, Hit raw workingDirectory tree names i j p := by
  constructor
  · rintro ⟨p, hp⟩
    obtain ⟨i, j, hhit, -⟩ := find?_eq_some_iff.1 hp
    exact ⟨i, j, p, hhit⟩
  · rintro ⟨i, j, p, hhit⟩
    obtain ⟨entry, text, name, hentry, htext, hname, hp⟩ := hit_iff.1 hhit
    rw [find?_ofBytes, ← Option.isSome_iff_exists, List.findSome?_isSome_iff]
    refine ⟨entry, List.mem_of_getElem? hentry, ?_⟩
    rw [hitIn?, htext, Option.bind_some, List.findSome?_isSome_iff]
    exact ⟨name, List.mem_of_getElem? hname, by rw [hp]; rfl⟩

/-- Nothing comes of an entry that is not text, or whose directory holds no file that may be run under any
of the names. -/
theorem hitIn?_eq_none_iff {e : List UInt8} :
    hitIn? workingDirectory tree names e = none ↔
      ¬ Utf8.IsUtf8 e ∨ ∃ text, e = Utf8.encode text ∧
        ∀ name ∈ names, ¬ tree.Runnable ((directoryOf workingDirectory text).join ⟨name⟩) := by
  cases hdecode : Utf8.decode e with
  | none =>
    have hnot := Utf8.decode_eq_none_iff.1 hdecode
    rw [hitIn?, hdecode, Option.bind_none]
    exact ⟨fun _ => .inl hnot, fun _ => rfl⟩
  | some text =>
    have htext := Utf8.decode_eq_some_iff.1 hdecode
    have hnames : hitIn? workingDirectory tree names e = none ↔
        ∀ name ∈ names, ¬ tree.Runnable ((directoryOf workingDirectory text).join ⟨name⟩) := by
      rw [hitIn?, hdecode, Option.bind_some, List.findSome?_eq_none_iff]
      refine forall₂_congr fun name _ => ?_
      rw [Option.eq_none_iff_forall_ne_some]
      simp only [ne_eq, hitUnder?_eq_some_iff, not_and, forall_eq]
    rw [hnames]
    constructor
    · intro hnothing
      exact .inr ⟨text, htext, hnothing⟩
    · rintro (hnot | ⟨other, hother, hnothing⟩)
      · exact absurd ⟨text, htext⟩ hnot
      · rw [hother, Utf8.decode_encode, Option.some.injEq] at hdecode
        rw [← hdecode]
        exact hnothing

/-- **An entry that leads to nothing might as well not be there**, if there are two others. -/
theorem find?_without {before after : List (List UInt8)} {e : List UInt8}
    (hsplit : entries raw = before ++ e :: after) (hmany : 3 ≤ (entries raw).length)
    (hnothing : hitIn? workingDirectory tree names e = none) :
    (ofBytes ([colon].intercalate (before ++ after)) workingDirectory).find? tree names =
      (ofBytes raw workingDirectory).find? tree names := by
  have hfree : ∀ other ∈ before ++ after, colon ∉ other := by
    intro other hother
    have hmem : other ∈ entries raw := by
      rw [hsplit, List.mem_append, List.mem_cons]
      exact (List.mem_append.1 hother).imp id .inr
    exact colon_notMem_of_mem_entries hmem
  have htwo : 2 ≤ (before ++ after).length := by
    rw [hsplit] at hmany
    simp only [List.length_append, List.length_cons] at hmany ⊢
    omega
  rw [find?_ofBytes, find?_ofBytes, entries_intercalate hfree htwo, hsplit, List.findSome?_append,
    List.findSome?_append, List.findSome?_cons, hnothing]

end SearchPath

namespace Toolchain

theorem locate_eq_ok_iff {search : SearchPath} {tree : FileTree} {names : List String} {p : Path} :
    locate search tree names = .ok p ↔ search.find? tree names = some p := by
  rw [locate]
  cases search.find? tree names with
  | none => simp
  | some helper => simp

/-- **When a helper is found, and which one.** One is found exactly if the directory of some entry that is
text holds a file under one of the names that may be run. It is then the one of the first such entry, and
there of the first such name. So of three entries or more, one can be taken away that is not text or whose
directory holds no such file: the same helper is found without it, or none as before. -/
theorem locate_outcome (raw : List UInt8) (workingDirectory : Option Path) (tree : FileTree)
    (names : List String) :
    ((∃ p, locate (.ofBytes raw workingDirectory) tree names = .ok p) ↔
      ∃ i j p, SearchPath.Hit raw workingDirectory tree names i j p) ∧
    (∀ p, locate (.ofBytes raw workingDirectory) tree names = .ok p ↔
      ∃ i j, SearchPath.Hit raw workingDirectory tree names i j p ∧
        ∀ i' j' p', SearchPath.Hit raw workingDirectory tree names i' j' p' →
          i < i' ∨ i = i' ∧ j ≤ j') ∧
    ∀ before e after, SearchPath.entries raw = before ++ e :: after →
      3 ≤ (SearchPath.entries raw).length →
      (¬ Utf8.IsUtf8 e ∨ ∃ text, e = Utf8.encode text ∧ ∀ name ∈ names,
        ¬ tree.Runnable ((SearchPath.directoryOf workingDirectory text).join ⟨name⟩)) →
      ∀ p, locate (.ofBytes ([SearchPath.colon].intercalate (before ++ after)) workingDirectory)
          tree names = .ok p ↔
        locate (.ofBytes raw workingDirectory) tree names = .ok p := by
  simp only [locate_eq_ok_iff]
  refine ⟨SearchPath.exists_find?_iff, fun p => SearchPath.find?_eq_some_iff, ?_⟩
  intro before e after hsplit hmany hnothing p
  rw [SearchPath.find?_without hsplit hmany (SearchPath.hitIn?_eq_none_iff.2 hnothing)]

/-- Two directories with helpers, the one under the second name and the other under the first. -/
def twoHelpers : FileTree where
  entries :=
    [(["bin"], .directory), (["llvm-config-3.1", "bin"], .file [] 0o755),
     (["opt"], .directory), (["llvm-config", "opt"], .file [] 0o755),
     (["llvm-config", "bin"], .file [] 0o644)]

/-- The earlier entry counts for more than the earlier name, and an entry that is not text for nothing. -/
theorem locate_outcome_twoHelpers :
    locate (.ofBytes (Utf8.encode "/bin:/opt") none) twoHelpers candidates =
        .ok ⟨"/bin/llvm-config-3.1"⟩ ∧
      locate (.ofBytes ([0xFF, 0x3A] ++ Utf8.encode "/bin:/opt") none) twoHelpers candidates =
        .ok ⟨"/bin/llvm-config-3.1"⟩ := by
  have hfound : locate (.ofBytes (Utf8.encode "/bin:/opt") none) twoHelpers candidates =
      .ok ⟨"/bin/llvm-config-3.1"⟩ := by decide
  have hwithout := (locate_outcome ([0xFF, 0x3A] ++ Utf8.encode "/bin:/opt") none twoHelpers
    candidates).2.2 [] [0xFF] [Utf8.encode "/bin", Utf8.encode "/opt"] (by decide) (by decide)
    (.inl (by decide)) ⟨"/bin/llvm-config-3.1"⟩
  exact ⟨hfound, hwithout.1 hfound⟩

end Toolchain

end BuildPlan
