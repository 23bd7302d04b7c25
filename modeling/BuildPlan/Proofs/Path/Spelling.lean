import BuildPlan.Path.Basic
import Mathlib.Data.List.Basic

/-!
# Spellings of a path

The same place can be spelled in several ways. Extra slashes and dots inside a path never show in its
components. A dot at the front does: `./a` and `a` are different paths although they lead to the same
place. This file says exactly how much a leading dot matters.

* `Path.startsHere` — the path has a leading dot.
* `Path.dotless` — its components without that dot; this is what paths are compared by below the root
  `.` (`under_here`).
* **`same_iff`** — two paths are the same exactly if they are spelled alike without leading dots and
  both or neither have one.
* `Path.steps` — the components of the pieces one by one, which are all the components of a path that is
  neither absolute nor has a leading dot (`dotless_eq_steps`).
* `steps_join_here` — a relative path has the same steps when it is seen from `.`.
-/

namespace BuildPlan

namespace Component

/-- A piece that is not the first stands for a step up or for a name. -/
theorem ofPiece?_cases {piece : List Char} {c : Component} (h : ofPiece? piece = some c) :
    c = .parent ∨ ∃ text, c = .name text := by
  rw [ofPiece?] at h
  split at h
  · cases h
  split at h
  · cases h
  split at h
  · cases h
    exact .inl rfl
  · cases h
    exact .inr ⟨_, rfl⟩

/-- Only the first piece stands for the current directory. -/
theorem current_notMem_filterMap (pieces : List (List Char)) :
    current ∉ pieces.filterMap ofPiece? := by
  intro h
  obtain ⟨piece, -, hpiece⟩ := List.mem_filterMap.1 h
  rcases ofPiece?_cases hpiece with heq | ⟨text, heq⟩
  · cases heq
  · cases heq

/-- Only the first piece stands for a leading slash. -/
theorem root_notMem_filterMap (pieces : List (List Char)) : root ∉ pieces.filterMap ofPiece? := by
  intro h
  obtain ⟨piece, -, hpiece⟩ := List.mem_filterMap.1 h
  rcases ofPiece?_cases hpiece with heq | ⟨text, heq⟩
  · cases heq
  · cases heq

theorem filter_eq_self {cs : List Component} (h : current ∉ cs) : cs.filter (· ≠ current) = cs := by
  refine List.filter_eq_self.2 ?_
  intro c hc
  refine decide_eq_true ?_
  rintro rfl
  exact h hc

end Component

namespace Path

/-- The path has a leading dot. -/
def startsHere (p : Path) : Bool := p.components.head? == some .current

/-- The components of a path without a leading dot. -/
def dotless (p : Path) : List Component := p.components.filter (· ≠ .current)

/-- A dot is nowhere but at the front. -/
theorem current_notMem_tail (p : Path) : .current ∉ p.components.tail := by
  rw [components]
  cases p.pieces with
  | nil => exact List.not_mem_nil
  | cons first rest =>
    have hrest := Component.current_notMem_filterMap rest
    show Component.current ∉ ((Component.ofFirstPiece? first !rest.isEmpty).toList ++
      rest.filterMap Component.ofPiece?).tail
    cases Component.ofFirstPiece? first !rest.isEmpty with
    | none => exact fun h => hrest (List.mem_of_mem_tail h)
    | some c => exact hrest

/-- Nothing but a leading dot is dropped. -/
theorem components_eq (p : Path) :
    p.components = (if p.startsHere then [.current] else []) ++ p.dotless := by
  have htail := p.current_notMem_tail
  rw [startsHere, dotless]
  cases hp : p.components with
  | nil => rfl
  | cons c rest =>
    rw [hp] at htail
    have hrest : rest.filter (· ≠ .current) = rest := Component.filter_eq_self htail
    by_cases hc : c = .current
    · subst hc
      rw [List.filter_cons_of_neg (by simp), hrest]
      rfl
    · have hhead : ((c :: rest).head? == some .current) = false := by simpa using hc
      rw [List.filter_cons_of_pos (by simpa using hc), hrest, hhead]
      rfl

/-- **Two paths are the same exactly if they are spelled alike without leading dots and both or neither
have one.** -/
theorem same_iff {p q : Path} :
    p.Same q ↔ p.startsHere = q.startsHere ∧ p.dotless = q.dotless := by
  constructor
  · intro h
    have h : p.components = q.components := h
    rw [startsHere, startsHere, dotless, dotless, h]
    exact ⟨rfl, rfl⟩
  · rintro ⟨hstart, hdotless⟩
    show p.components = q.components
    rw [components_eq p, components_eq q, hstart, hdotless]

/-- Below the root `.`, paths are compared without leading dots. -/
theorem under_here (p : Path) : under ⟨"."⟩ p = p.dotless := by
  have hroot : (Path.mk ".").components = [.current] := by decide
  rw [under, dotless, hroot]
  cases p.components with
  | nil => rfl
  | cons c rest =>
    show ((if Component.current == c then some rest else none).getD (c :: rest)).filter _ = _
    by_cases hc : c = .current
    · subst hc
      rfl
    · rw [if_neg (by simpa using Ne.symm hc)]
      rfl

/-! ### Relative paths -/

/-- The components that the pieces of a path stand for, each of them read as if it were not the
first. -/
def steps (p : Path) : List Component := p.pieces.filterMap Component.ofPiece?

/-- A relative path has no empty first piece, unless it is empty. -/
theorem exists_pieces_of_relative {p : Path} (h : p.isAbsolute = false) :
    ∃ first rest, p.pieces = first :: rest ∧ (first = [] → rest = []) := by
  rw [isAbsolute] at h
  rw [pieces]
  cases hp : p.text.toList with
  | nil => exact ⟨[], [], List.splitOn_nil _, fun _ => rfl⟩
  | cons c cs =>
    rw [hp] at h
    have hc : c ≠ '/' := by
      rintro rfl
      cases h
    obtain ⟨first, rest, hsplit⟩ := List.exists_cons_of_ne_nil (List.splitOn_ne_nil '/' cs)
    refine ⟨c :: first, rest, ?_, fun heq => absurd heq (List.cons_ne_nil _ _)⟩
    rw [List.splitOn, List.splitOnP_cons_eq_if_modifyHead, ← List.splitOn, hsplit,
      if_neg (by simpa using hc)]
    rfl

/-- The components of a relative path are its steps, after a leading dot if there is one. -/
theorem dotless_eq_steps {p : Path} (h : p.isAbsolute = false) : p.dotless = p.steps := by
  obtain ⟨first, rest, hpieces, hempty⟩ := exists_pieces_of_relative h
  have hrest : (rest.filterMap Component.ofPiece?).filter (· ≠ .current) =
      rest.filterMap Component.ofPiece? :=
    Component.filter_eq_self (Component.current_notMem_filterMap rest)
  rw [dotless, components, steps, hpieces]
  simp only [List.filter_append, hrest, List.filterMap_cons, Component.ofFirstPiece?]
  by_cases hnil : first = []
  · have hall := hempty hnil
    subst hnil hall
    rfl
  · rw [if_neg hnil]
    by_cases hdot : first = ['.']
    · subst hdot
      rfl
    · rw [if_neg hdot]
      cases hfirst : Component.ofPiece? first with
      | none => rfl
      | some c =>
        have hc : c ≠ .current := by
          rintro rfl
          rcases Component.ofPiece?_cases hfirst with heq | ⟨text, heq⟩
          · cases heq
          · cases heq
        simp [hc]

/-- A relative path seen from the current directory has one more piece. -/
theorem pieces_join_here {p : Path} (h : p.isAbsolute = false) :
    ((Path.mk ".").join p).pieces = ['.'] :: p.pieces := by
  have hempty : ("." : String).isEmpty = false := by decide
  have hlast : (("." : String).toList.getLast? == some '/') = false := by decide
  have htext : ("." ++ "/" ++ p.text).toList = ['.'] ++ '/' :: p.text.toList := by
    simp
  rw [join, h, pieces]
  simp only [Bool.false_eq_true, if_false, hempty, hlast, Bool.or_false]
  rw [htext, List.splitOn_append_cons_self_of_not_mem (by decide), ← pieces]

theorem steps_join_here {p : Path} (h : p.isAbsolute = false) :
    ((Path.mk ".").join p).steps = p.steps := by
  rw [steps, pieces_join_here h]
  rfl

theorem isAbsolute_join_here {p : Path} (h : p.isAbsolute = false) :
    ((Path.mk ".").join p).isAbsolute = false := by
  have htext : ("." ++ "/" ++ p.text).toList = '.' :: '/' :: p.text.toList := by
    simp
  rw [join, h, isAbsolute]
  show (("." ++ "/" ++ p.text).toList.head? == some '/') = false
  rw [htext]
  rfl

/-- Putting a path under another brings in no character but a slash. -/
theorem notMem_text_join {c : Char} (hslash : c ≠ '/') {base extra : Path}
    (hbase : c ∉ base.text.toList) (hextra : c ∉ extra.text.toList) :
    c ∉ (base.join extra).text.toList := by
  rw [join]
  split
  · exact hextra
  split
  · rw [String.toList_append, List.mem_append, not_or]
    exact ⟨hbase, hextra⟩
  · rw [String.toList_append, String.toList_append, List.mem_append, List.mem_append, not_or, not_or]
    exact ⟨⟨hbase, by simpa using hslash⟩, hextra⟩

end Path

end BuildPlan
