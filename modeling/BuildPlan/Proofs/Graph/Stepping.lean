import BuildPlan.Graph.Circularity

/-!
# The steps of the search for circular dependencies

A search looks at one path after the other. Which paths come next depends on where it is: the rest of what
the innermost path waits for, or the rest of the roots if it is between two roots. This file says once what
looking at the first of them can do, and strings steps together.

* `Search.awaiting`, `Search.withAwaiting` — the paths that come next, and the search with others in their
  place.
* `Search.entered` — the search after it has entered a path.
* `step_source`, `step_visited`, `step_met`, `step_enter` — the four things that looking at a path can
  do; `step_leave` — what happens when a path has nothing left to look at.
* **`going_cases`** — what a step has done that leads on.
* `Search.Runs` — some steps in turn, with the paths that they enter.
-/

namespace BuildPlan

namespace Circularity

namespace Search

variable {producers : Producers} {edges : List Edge} {s t : Search} {p : Path} {ps : List Path}

/-- The paths that come next: what the innermost path still waits for, or the roots if the chain is
empty. -/
def awaiting (s : Search) : List Path :=
  match s.frames with
  | [] => s.roots
  | f :: _ => f.pending

/-- The search with these paths to come next. -/
def withAwaiting (s : Search) (ps : List Path) : Search :=
  match s.frames with
  | [] => { s with roots := ps }
  | f :: outer => { s with frames := ⟨f.node, ps⟩ :: outer }

@[simp] theorem marks_withAwaiting (s : Search) (ps : List Path) : (s.withAwaiting ps).marks = s.marks := by
  unfold withAwaiting
  split <;> rfl

@[simp] theorem nodes_withAwaiting (s : Search) (ps : List Path) :
    (s.withAwaiting ps).frames.map Frame.node = s.frames.map Frame.node := by
  unfold withAwaiting
  split <;> rename_i hframes <;> simp [hframes]

@[simp] theorem chain_withAwaiting (s : Search) (ps : List Path) : (s.withAwaiting ps).chain = s.chain := by
  rw [chain, nodes_withAwaiting, ← chain]

@[simp] theorem mark?_withAwaiting (s : Search) (ps : List Path) (p : Path) :
    (s.withAwaiting ps).mark? p = s.mark? p := by
  rw [mark?, marks_withAwaiting, ← mark?]

@[simp] theorem closing_withAwaiting (s : Search) (ps : List Path) (p : Path) :
    (s.withAwaiting ps).closing p = s.closing p := by
  rw [closing, chain_withAwaiting, ← closing]

@[simp] theorem length_frames_withAwaiting (s : Search) (ps : List Path) :
    (s.withAwaiting ps).frames.length = s.frames.length := by
  rw [← List.length_map Frame.node, nodes_withAwaiting, List.length_map]

@[simp] theorem awaiting_withAwaiting (s : Search) (ps : List Path) : (s.withAwaiting ps).awaiting = ps := by
  obtain ⟨roots, frames, marks⟩ := s
  cases frames <;> rfl

theorem withAwaiting_of_awaiting (h : s.awaiting = ps) : s.withAwaiting ps = s := by
  obtain ⟨roots, frames, marks⟩ := s
  subst h
  cases frames <;> rfl

/-- The search after it has entered a path. -/
def entered (producers : Producers) (edges : List Edge) (p : Path) (s : Search) : Search where
  roots := s.roots
  frames := ⟨p, producers.needs edges p⟩ :: s.frames
  marks := (p.components, .visiting) :: s.marks

/-! ### What a step can do -/

/-- As long as some path comes next, a step looks at the first of them. -/
theorem step_of_awaiting (h : s.awaiting = p :: ps) :
    s.step producers edges = look producers edges p (s.withAwaiting ps) := by
  obtain ⟨roots, frames, marks⟩ := s
  cases frames with
  | nil =>
    obtain rfl : roots = p :: ps := h
    rfl
  | cons f outer =>
    obtain ⟨node, pending⟩ := f
    obtain rfl : pending = p :: ps := h
    rfl

/-- A path that no edge produces is passed over. -/
theorem step_source (h : s.awaiting = p :: ps) (hin : producers.contains p = false) :
    s.step producers edges = .going (s.withAwaiting ps) := by
  rw [step_of_awaiting h, look, hin]
  rfl

/-- So is a visited path. -/
theorem step_visited (h : s.awaiting = p :: ps) (hin : producers.contains p = true)
    (hmark : s.mark? p = some .visited) : s.step producers edges = .going (s.withAwaiting ps) := by
  rw [step_of_awaiting h, look, if_pos hin, visit, mark?_withAwaiting, hmark]

/-- A path in the middle of its visit closes a walk. -/
theorem step_met (h : s.awaiting = p :: ps) (hin : producers.contains p = true)
    (hmark : s.mark? p = some .visiting) : s.step producers edges = .circle (s.closing p) := by
  rw [step_of_awaiting h, look, if_pos hin, visit, mark?_withAwaiting, hmark]
  show Progress.circle ((s.withAwaiting ps).closing p) = _
  rw [closing_withAwaiting]

/-- Any other path is entered. -/
theorem step_enter (h : s.awaiting = p :: ps) (hin : producers.contains p = true)
    (hmark : s.mark? p = none) :
    s.step producers edges = .going (entered producers edges p (s.withAwaiting ps)) := by
  rw [step_of_awaiting h, look, if_pos hin, visit, mark?_withAwaiting, hmark]
  rfl

/-- A path with nothing left to look at is left. -/
theorem step_leave {node : Path} {outer : List Frame} (h : s.frames = ⟨node, []⟩ :: outer) :
    s.step producers edges =
      .going { s with frames := outer, marks := (node.components, .visited) :: s.marks } := by
  rw [step, h]

/-- Without a chain and without roots, the search is over. -/
theorem step_done (hframes : s.frames = []) (hroots : s.roots = []) : s.step producers edges = .done := by
  rw [step, hframes, hroots]

/-- **What a step does that leads on**: it leaves the innermost path, or it passes over the path that comes
next, or it enters that path. -/
theorem going_cases {next : Search} (h : s.step producers edges = .going next) :
    (∃ node outer, s.frames = ⟨node, []⟩ :: outer ∧
      next = { s with frames := outer, marks := (node.components, .visited) :: s.marks }) ∨
    (∃ p ps, s.awaiting = p :: ps ∧ next = s.withAwaiting ps) ∨
    ∃ p ps, s.awaiting = p :: ps ∧ producers.contains p = true ∧ s.mark? p = none ∧
      next = entered producers edges p (s.withAwaiting ps) := by
  cases hnext : s.awaiting with
  | nil =>
    cases hframes : s.frames with
    | nil =>
      have hroots : s.roots = [] := by simpa [awaiting, hframes] using hnext
      rw [step_done hframes hroots] at h
      cases h
    | cons f outer =>
      obtain ⟨node, pending⟩ := f
      obtain rfl : pending = [] := by simpa [awaiting, hframes] using hnext
      rw [step_leave hframes] at h
      cases h
      exact .inl ⟨node, outer, rfl, rfl⟩
  | cons p ps =>
    cases hin : producers.contains p with
    | false =>
      rw [step_source hnext hin] at h
      cases h
      exact .inr (.inl ⟨p, ps, rfl, rfl⟩)
    | true =>
      cases hmark : s.mark? p with
      | none =>
        rw [step_enter hnext hin hmark] at h
        cases h
        exact .inr (.inr ⟨p, ps, rfl, hin, hmark, rfl⟩)
      | some m =>
        cases m with
        | visiting =>
          rw [step_met hnext hin hmark] at h
          cases h
        | visited =>
          rw [step_visited hnext hin hmark] at h
          cases h
          exact .inr (.inl ⟨p, ps, rfl, rfl⟩)

/-! ### Steps in turn -/

/-- The path that a step from one search to the next has entered, if it has entered one. -/
def entrant? (s next : Search) : Option Path :=
  if s.frames.length < next.frames.length then next.frames.head?.map Frame.node else none

/-- Some steps lead from a search to another. The list has the paths that they enter, in order. -/
inductive Runs (producers : Producers) (edges : List Edge) : Search → List Path → Search → Prop
  /-- No step. -/
  | refl (s : Search) : Runs producers edges s [] s
  /-- One step more, in front. -/
  | step {s next last : Search} {walked : List Path} (first : s.step producers edges = .going next)
      (rest : Runs producers edges next walked last) :
      Runs producers edges s ((s.entrant? next).toList ++ walked) last

theorem Runs.trans {u : Search} {walked more : List Path} (h : s.Runs producers edges walked t)
    (h' : t.Runs producers edges more u) : s.Runs producers edges (walked ++ more) u := by
  induction h with
  | refl s => exact h'
  | step first _ ih =>
    rw [List.append_assoc]
    exact .step first (ih h')

/-- A step that makes the chain no longer enters nothing. -/
theorem Runs.single {next : Search} (h : s.step producers edges = .going next)
    (hframes : next.frames.length ≤ s.frames.length) : s.Runs producers edges [] next := by
  have hrun : s.Runs producers edges ((s.entrant? next).toList ++ []) next := .step h (.refl next)
  rwa [entrant?, if_neg (Nat.not_lt.2 hframes)] at hrun

theorem entrant?_entered (s : Search) (ps : List Path) (p : Path) :
    s.entrant? (entered producers edges p (s.withAwaiting ps)) = some p := by
  have hlonger : s.frames.length < (entered producers edges p (s.withAwaiting ps)).frames.length := by
    show s.frames.length < (s.withAwaiting ps).frames.length + 1
    rw [length_frames_withAwaiting]
    omega
  rw [entrant?, if_pos hlonger]
  rfl

/-- What holds of a search and is kept by every step holds after any number of steps. -/
theorem Runs.preserves {P : Search → Prop}
    (hP : ∀ {s next : Search}, P s → s.step producers edges = .going next → P next)
    {walked : List Path} (h : s.Runs producers edges walked t) (hs : P s) : P t := by
  induction h with
  | refl s => exact hs
  | step first _ ih => exact ih (hP hs first)

end Search

end Circularity

end BuildPlan
