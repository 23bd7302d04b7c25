import BuildPlan.Proofs.Files.Growth
import BuildPlan.Proofs.Path.Spelling
import Mathlib.Data.Set.List

/-!
# Where relative paths lead

Paths are followed piece by piece in a tree, and compared component by component without looking at any
tree. Since there are no links, the two go together: where a relative path leads, if it leads anywhere,
can be told from its steps. Steps up are the exception to comparing: `a/../b` leads where `b` does, but
it has other steps. Without them, paths with different steps lead to different places.

* `Component.lead` — where a step leads.
* `FileTree.resolve_eq_lead` — where a relative path leads.
* `lead_inj` — steps that never go up lead to one place only if they are equal.
* **`FileTree.ne_of_dotless_ne`** — relative paths that never go up and differ below the root `.` lead to
  different places.
-/

namespace BuildPlan

namespace Component

/-- Where a component leads from a location. -/
def lead (loc : Location) : Component → Location
  | .root => []
  | .current => loc
  | .parent => loc.tail
  | .name text => text :: loc

/-- Names lead down, one after the other. -/
theorem foldl_lead_names (names : List String) (loc : Location) :
    (names.map name).foldl lead loc = names.reverse ++ loc := by
  induction names generalizing loc with
  | nil => rfl
  | cons text rest ih =>
    rw [List.map_cons, List.foldl_cons, ih, List.reverse_cons, List.append_assoc]
    rfl

end Component

namespace FileTree

variable {t : FileTree}

theorem follow_eq_lead {loc next : Location} {piece : List Char} (h : t.follow loc piece = .ok next) :
    next = (Component.ofPiece? piece).elim loc (Component.lead loc) := by
  rw [Component.ofPiece?]
  obtain ⟨-, ⟨hstay, rfl⟩ | ⟨rfl, rfl⟩ | ⟨⟨hnil, hdot, hdots⟩, -, rfl, -⟩⟩ := follow_cases h
  · rcases hstay with rfl | rfl
    · rfl
    · rfl
  · rfl
  · rw [if_neg hnil, if_neg hdot, if_neg hdots]
    rfl

theorem followAll_eq_lead {pieces : List (List Char)} {loc goal : Location}
    (h : t.followAll loc pieces = .ok goal) :
    goal = (pieces.filterMap Component.ofPiece?).foldl Component.lead loc := by
  induction pieces generalizing loc with
  | nil =>
    cases h
    rfl
  | cons piece rest ih =>
    rw [followAll] at h
    cases hnext : t.follow loc piece with
    | error obstacle =>
      rw [hnext] at h
      cases h
    | ok next =>
      rw [hnext] at h
      rw [ih h, List.filterMap_cons, follow_eq_lead hnext]
      cases Component.ofPiece? piece with
      | none => rfl
      | some c => rfl

/-- **Where a relative path leads is told by its steps.** -/
theorem resolve_eq_lead {p : Path} (hp : p.isAbsolute = false) {goal : Location}
    (h : t.resolve p = .ok goal) : goal = p.steps.foldl Component.lead t.home := by
  have horigin : t.origin p = t.home := by
    rw [origin, hp]
    rfl
  rw [resolve] at h
  split at h
  · cases h
  split at h
  · cases h
  split at h
  · cases h
  rw [horigin] at h
  exact followAll_eq_lead h

end FileTree

namespace Path

/-- The path is relative and never goes up. -/
def LeadsDown (p : Path) : Prop := p.isAbsolute = false ∧ .parent ∉ p.components

instance (p : Path) : Decidable p.LeadsDown :=
  inferInstanceAs (Decidable (p.isAbsolute = false ∧ .parent ∉ p.components))

/-- The steps of a path that leads down never go up. -/
theorem LeadsDown.notMem_steps {p : Path} (h : p.LeadsDown) : .parent ∉ p.steps := by
  rw [← dotless_eq_steps h.1, dotless]
  exact fun hmem => h.2 (List.mem_of_mem_filter hmem)

/-- Steps that never go up are names. -/
theorem exists_names_of_steps {p : Path} (h : .parent ∉ p.steps) :
    ∃ names : List String, p.steps = names.map .name := by
  have hrange : p.steps ∈ Set.range (List.map Component.name) := by
    rw [Set.range_list_map]
    intro c hc
    obtain ⟨piece, -, hpiece⟩ := List.mem_filterMap.1 hc
    rcases Component.ofPiece?_cases hpiece with rfl | ⟨text, rfl⟩
    · exact absurd hc h
    · exact ⟨text, rfl⟩
  obtain ⟨names, hnames⟩ := hrange
  exact ⟨names, hnames.symm⟩

/-- Steps that never go up lead to one place only if they are equal. -/
theorem lead_inj {p q : Path} (hp : .parent ∉ p.steps) (hq : .parent ∉ q.steps) {loc : Location}
    (h : p.steps.foldl Component.lead loc = q.steps.foldl Component.lead loc) :
    p.steps = q.steps := by
  obtain ⟨names, hnames⟩ := exists_names_of_steps hp
  obtain ⟨names', hnames'⟩ := exists_names_of_steps hq
  rw [hnames, hnames', Component.foldl_lead_names, Component.foldl_lead_names] at h
  rw [hnames, hnames', List.reverse_injective (List.append_cancel_right h)]

end Path

namespace FileTree

/-- **Relative paths that never go up lead to different places if they differ below the root `.`**, even
if they are followed in different trees. -/
theorem ne_of_dotless_ne {t after : FileTree} {p q : Path} {loc loc' : Location} (hp : p.LeadsDown)
    (hq : q.LeadsDown) (hne : p.dotless ≠ q.dotless) (hhome : after.home = t.home)
    (h : t.resolve ((Path.mk ".").join p) = .ok loc)
    (h' : after.resolve ((Path.mk ".").join q) = .ok loc') : loc ≠ loc' := by
  rintro rfl
  have hlead := resolve_eq_lead (Path.isAbsolute_join_here hp.1) h
  have hlead' := resolve_eq_lead (Path.isAbsolute_join_here hq.1) h'
  rw [Path.steps_join_here hp.1] at hlead
  rw [Path.steps_join_here hq.1, hhome, hlead] at hlead'
  rw [Path.dotless_eq_steps hp.1, Path.dotless_eq_steps hq.1] at hne
  exact hne (Path.lead_inj hp.notMem_steps hq.notMem_steps hlead')

end FileTree

end BuildPlan
