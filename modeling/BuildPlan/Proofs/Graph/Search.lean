import BuildPlan.Graph.Circularity
import BuildPlan.Proofs.Draft.Declaring
import Mathlib.Data.List.Chain
import Mathlib.Data.List.TakeWhile

/-!
# What the search for circular dependencies keeps

The search works with a chain of paths entered and not yet left, and a mark on every path entered so
far. This file states what ties the two together at every moment, on any graph, and reads off what
the search has found when it ends.

* `DependsOn` — one path waits for another that some edge produces.
* `IsCircle` — a closed walk along dependencies that meets no path twice before it closes.
* `Settled` — every path marked as visited has only dependencies that were visited before it, so that
  the order of these marks ranks the paths.
* `Orderly` — the invariant. It speaks of a search that is about to look at one more path, the *due*
  one, as well as of a search between two steps, where nothing is due.
* `leave`, `turn_inner`, `turn_root`, `skip`, `enter` — each part of a step keeps it; `isCircle_closing` —
  a walk that a step closes is a circle.
* **`run_start`** — from the start the search either finds a circle or ends with every produced path
  visited.
* **`find?_eq_none_iff`** — no circle is found exactly if paths can be ranked so that dependencies
  have lower ranks.
-/

namespace BuildPlan

/-- What a path waits for depends only on its components. -/
theorem Producers.needs_eq_of_same {p q : Path} (h : p.Same q) (producers : Producers)
    (edges : List Edge) : producers.needs edges p = producers.needs edges q := by
  rw [needs, place?_eq_of_same h, ← needs]

theorem Producers.contains_eq_of_same {p q : Path} (h : p.Same q) (producers : Producers) :
    producers.contains p = producers.contains q := by
  rw [contains, place?_eq_of_same h, ← contains]

/-- What waits for something is produced. -/
theorem Producers.contains_of_mem_needs {producers : Producers} {edges : List Edge} {p q : Path}
    (h : q ∈ producers.needs edges p) : producers.contains p = true := by
  rw [contains]
  cases hplace : producers.place? p with
  | none => simp [needs, hplace] at h
  | some place => rfl

namespace Circularity

/-- The path waits for the other, and some edge produces that. -/
def DependsOn (producers : Producers) (edges : List Edge) (p q : Path) : Prop :=
  q ∈ producers.needs edges p ∧ producers.contains q = true

/-- A closed walk along dependencies that meets no path twice before it closes. -/
structure IsCircle (producers : Producers) (edges : List Edge) (walk : List Path) : Prop where
  /-- Every path of the walk waits for the next. -/
  follows : walk.IsChain (DependsOn producers edges)
  /-- The walk has at least two paths and ends where it starts. -/
  closed : ∃ p inner q, walk = p :: (inner ++ [q]) ∧ p.Same q
  /-- Up to its end, the walk meets no path twice. -/
  simple : Path.Distinct walk.dropLast

/-- A rank that every dependency lowers. -/
def Ranks (producers : Producers) (edges : List Edge) (rank : List Component → Nat) : Prop :=
  ∀ p q, DependsOn producers edges p q → rank q.components < rank p.components

/-- Ranked paths form no circle: along a walk the rank goes down, and it cannot come back up. -/
theorem IsCircle.not_ranks {producers : Producers} {edges : List Edge} {walk : List Path}
    (h : IsCircle producers edges walk) {rank : List Component → Nat} :
    ¬ Ranks producers edges rank := by
  intro hrank
  obtain ⟨p, inner, q, rfl, hpq⟩ := h.closed
  have hdown : (p :: (inner ++ [q])).IsChain fun a b => rank b.components < rank a.components :=
    h.follows.imp hrank
  have : IsTrans Path fun a b => rank b.components < rank a.components :=
    ⟨fun _ _ _ hab hbc => lt_trans hbc hab⟩
  have hlt := List.rel_of_pairwise_cons (List.isChain_iff_pairwise.1 hdown)
    (List.mem_append_right inner (List.mem_singleton_self q))
  rw [show p.components = q.components from hpq] at hlt
  exact lt_irrefl _ hlt

/-! ### The order of the visits -/

/-- Every path marked as visited has only dependencies that were marked so before it. -/
def Settled (producers : Producers) (edges : List Edge) : List (List Component × Mark) → Prop
  | [] => True
  | (key, mark) :: older =>
    (mark = .visited → ∀ p q, p.components = key → DependsOn producers edges p q →
      (q.components, Mark.visited) ∈ older) ∧ Settled producers edges older

/-- In a settled list of marks, what a visited path depends on was visited at an earlier place. -/
theorem Settled.idxOf_lt {producers : Producers} {edges : List Edge}
    {marks : List (List Component × Mark)} (h : Settled producers edges marks) {p q : Path}
    (hp : (p.components, Mark.visited) ∈ marks) (hpq : DependsOn producers edges p q) :
    marks.reverse.idxOf (q.components, Mark.visited) <
      marks.reverse.idxOf (p.components, Mark.visited) := by
  induction marks with
  | nil => cases hp
  | cons entry older ih =>
    obtain ⟨key, mark⟩ := entry
    obtain ⟨hhead, htail⟩ := h
    rw [List.reverse_cons]
    by_cases hold : (p.components, Mark.visited) ∈ older
    · have hlt := ih htail hold
      have hp' := List.mem_reverse.2 hold
      have hq' : (q.components, Mark.visited) ∈ older.reverse :=
        List.idxOf_lt_length_iff.1 (lt_trans hlt (List.idxOf_lt_length_iff.2 hp'))
      rw [List.idxOf_append_of_mem hp', List.idxOf_append_of_mem hq']
      exact hlt
    · have heq : (p.components, Mark.visited) = (key, mark) := by
        rcases List.mem_cons.1 hp with heq | hmem
        · exact heq
        · exact absurd hmem hold
      rw [Prod.mk.injEq] at heq
      have hq' := List.mem_reverse.2 (hhead heq.2.symm p q heq.1 hpq)
      rw [List.idxOf_append_of_mem hq',
        List.idxOf_append_of_notMem (fun hmem => hold (List.mem_reverse.1 hmem))]
      have := List.idxOf_lt_length_iff.2 hq'
      omega

/-! ### Marks and runs -/

namespace Search

variable {s : Search} {p : Path}

theorem mem_marks_of_mark? {m : Mark} (h : s.mark? p = some m) : (p.components, m) ∈ s.marks := by
  obtain ⟨before, after, hsplit, -⟩ := List.lookup_eq_some_iff.1 h
  rw [hsplit]
  exact List.mem_append_right before List.mem_cons_self

theorem not_mem_marks_of_mark? (h : s.mark? p = none) (m : Mark) : (p.components, m) ∉ s.marks := by
  intro hmem
  have hne := List.lookup_eq_none_iff.1 h _ hmem
  simp at hne

theorem mark?_cons (s : Search) (p q : Path) (m : Mark) (roots : List Path) (frames : List Frame) :
    mark? ⟨roots, frames, (p.components, m) :: s.marks⟩ q =
      if p.Same q then some m else s.mark? q := by
  rw [mark?, List.lookup_cons]
  by_cases h : p.Same q
  · rw [if_pos h, show (q.components == p.components) = true from beq_iff_eq.2 (Eq.symm h)]
  · rw [if_neg h, show (q.components == p.components) = false from
      beq_eq_false_iff_ne.2 fun heq => h (Eq.symm heq)]
    rfl

theorem run_eq (producers : Producers) (edges : List Edge) (s : Search) :
    s.run producers edges =
      match s.step producers edges with
      | .circle walk => some walk
      | .done => none
      | .going next => next.run producers edges := by
  rw [run]
  split <;> rename_i hstep <;> rw [hstep]

end Search

/-! ### The invariant -/

/-- What holds of a search between two steps (`due = none`), and of a search that is about to look at
one more path (`due = some p`). -/
structure Orderly (producers : Producers) (edges : List Edge) (due : Option Path) (s : Search) :
    Prop where
  /-- The paths in the middle of their visit are those on the chain. -/
  visiting_iff : ∀ p, s.mark? p = some .visiting ↔ ∃ f ∈ s.frames, f.node.Same p
  /-- No path is on the chain twice. -/
  nodes_distinct : Path.Distinct (s.frames.map Frame.node)
  /-- Every path on the chain is produced. -/
  produced : ∀ f ∈ s.frames, producers.contains f.node = true
  /-- Every path on the chain waits for the next one inwards. -/
  linked : (s.frames.map Frame.node).IsChain fun inner outer => inner ∈ producers.needs edges outer
  /-- The innermost path waits for the due one. -/
  due_mem : ∀ p, due = some p → ∀ f outer, s.frames = f :: outer →
    p ∈ producers.needs edges f.node
  /-- What a path on the chain no longer has to look at is visited, due, or on the chain further
  inwards. -/
  looked : ∀ inner f outer, s.frames = inner ++ f :: outer →
    ∃ done, producers.needs edges f.node = done ++ f.pending ∧
      ∀ q ∈ done, producers.contains q = true → (q.components, Mark.visited) ∈ s.marks ∨
        (∃ g ∈ inner, g.node.Same q) ∨ (inner = [] ∧ due = some q)
  /-- What is visited has only dependencies visited before. -/
  settled : Settled producers edges s.marks
  /-- A produced path is marked, due, or the same as a root still to be entered. -/
  rooted : ∀ p, producers.contains p = true → (∃ m, (p.components, m) ∈ s.marks) ∨
    (∃ r, due = some r ∧ r.Same p) ∨ ∃ r ∈ s.roots, r.Same p

namespace Orderly

variable {producers : Producers} {edges : List Edge} {s : Search} {due : Option Path} {p : Path}

/-- The search starts out orderly if its index contains nothing but outputs. -/
theorem start (h : ∀ p, producers.contains p = true → ∃ q ∈ edges.flatMap Edge.outputs, q.Same p) :
    Orderly producers edges none (start edges) where
  visiting_iff p := by simp [Circularity.start, Search.mark?]
  nodes_distinct := List.Pairwise.nil
  produced := by simp [Circularity.start]
  linked := List.isChain_nil
  due_mem := by simp
  looked := by simp [Circularity.start]
  settled := trivial
  rooted p hp := .inr (.inr (h p hp))

/-- **Leaving a path.** The innermost path has nothing left to look at, so all it depends on is
visited. -/
theorem leave {node : Path} {outer : List Frame} (h : Orderly producers edges none s)
    (hframes : s.frames = ⟨node, []⟩ :: outer) :
    Orderly producers edges none
      { s with frames := outer, marks := (node.components, .visited) :: s.marks } := by
  have hdistinct := h.nodes_distinct
  rw [hframes, List.map_cons, Path.Distinct, List.pairwise_cons] at hdistinct
  obtain ⟨done, hneeds, hdone⟩ := h.looked [] _ _ hframes
  rw [List.append_nil] at hneeds
  constructor
  case nodes_distinct => exact hdistinct.2
  case due_mem => simp
  case visiting_iff =>
    intro q
    rw [Search.mark?_cons]
    by_cases hq : node.Same q
    · rw [if_pos hq]
      constructor
      · intro hmark
        cases hmark
      · rintro ⟨f, hf, hfq⟩
        exact absurd (hq.trans hfq.symm) (hdistinct.1 f.node (List.mem_map_of_mem hf))
    · rw [if_neg hq, h.visiting_iff q, hframes]
      constructor
      · rintro ⟨f, hf, hfq⟩
        rcases List.mem_cons.1 hf with rfl | hf
        · exact absurd hfq hq
        · exact ⟨f, hf, hfq⟩
      · rintro ⟨f, hf, hfq⟩
        exact ⟨f, List.mem_cons_of_mem _ hf, hfq⟩
  case produced =>
    intro f hf
    exact h.produced f (hframes ▸ List.mem_cons_of_mem _ hf)
  case linked =>
    have hlinked := h.linked
    rw [hframes] at hlinked
    exact hlinked.tail
  case looked =>
    -- the path just left is visited now, so it need no longer stand further inwards
    intro inner f rest houter
    have hsplit : s.frames = (⟨node, []⟩ :: inner) ++ f :: rest := by
      rw [hframes, show outer = inner ++ f :: rest from houter]
      rfl
    obtain ⟨done', hneeds', hdone'⟩ := h.looked (⟨node, []⟩ :: inner) f rest hsplit
    refine ⟨done', hneeds', ?_⟩
    intro q hq hin
    rcases hdone' q hq hin with hvisited | ⟨g, hg, hgq⟩ | ⟨hnil, -⟩
    · exact .inl (List.mem_cons_of_mem _ hvisited)
    · rcases List.mem_cons.1 hg with rfl | hg
      · refine .inl ?_
        rw [show q.components = node.components from Eq.symm hgq]
        exact List.mem_cons_self
      · exact .inr (.inl ⟨g, hg, hgq⟩)
    · cases hnil
  case settled =>
    refine ⟨?_, h.settled⟩
    intro _ q r hkey hqr
    rw [DependsOn, Producers.needs_eq_of_same (show q.Same node from hkey), hneeds] at hqr
    rcases hdone r hqr.1 hqr.2 with hvisited | ⟨g, hg, -⟩ | ⟨-, hdue⟩
    · exact hvisited
    · cases hg
    · cases hdue
  case rooted =>
    intro q hq
    rcases h.rooted q hq with ⟨m, hm⟩ | ⟨r, hr, -⟩ | hroot
    · exact .inl ⟨m, List.mem_cons_of_mem _ hm⟩
    · cases hr
    · exact .inr (.inr hroot)

/-- Turning to the next dependency of the innermost path makes it due. -/
theorem turn_inner {node p : Path} {pending : List Path} {outer : List Frame}
    (h : Orderly producers edges none s) (hframes : s.frames = ⟨node, p :: pending⟩ :: outer) :
    Orderly producers edges (some p) { s with frames := ⟨node, pending⟩ :: outer } := by
  have hnodes : (s.frames.map Frame.node) = node :: outer.map Frame.node := by
    rw [hframes, List.map_cons]
  obtain ⟨done, hneeds, hdone⟩ := h.looked [] _ _ hframes
  constructor
  case settled => exact h.settled
  case visiting_iff =>
    intro q
    have hvisiting := h.visiting_iff q
    rw [hframes] at hvisiting
    refine hvisiting.trans ?_
    simp
  case nodes_distinct =>
    rw [List.map_cons, ← hnodes]
    exact h.nodes_distinct
  case produced =>
    intro f hf
    have hprod := h.produced
    rw [hframes] at hprod
    rcases List.mem_cons.1 hf with rfl | hf
    · exact hprod ⟨node, p :: pending⟩ List.mem_cons_self
    · exact hprod f (List.mem_cons_of_mem _ hf)
  case linked =>
    rw [List.map_cons, ← hnodes]
    exact h.linked
  case due_mem =>
    intro q hq f rest hcons
    cases hq
    rw [← (List.cons.inj hcons).1, hneeds]
    exact List.mem_append_right done List.mem_cons_self
  case looked =>
    intro inner f rest hsplit
    cases inner with
    | nil =>
      rw [List.nil_append] at hsplit
      obtain ⟨rfl, rfl⟩ := List.cons.inj hsplit
      -- the due path counts as looked at in the innermost frame
      refine ⟨done ++ [p], by rw [hneeds, List.append_assoc]; rfl, ?_⟩
      intro q hq hin
      rcases List.mem_append.1 hq with hq | hq
      · rcases hdone q hq hin with hvisited | ⟨g, hg, -⟩ | ⟨-, hdue⟩
        · exact .inl hvisited
        · cases hg
        · cases hdue
      · rw [List.mem_singleton.1 hq]
        exact .inr (.inr ⟨rfl, rfl⟩)
    | cons g inner =>
      rw [List.cons_append] at hsplit
      obtain ⟨rfl, rfl⟩ := List.cons.inj hsplit
      obtain ⟨done', hneeds', hdone'⟩ := h.looked (⟨node, p :: pending⟩ :: inner) f rest hframes
      refine ⟨done', hneeds', ?_⟩
      intro q hq hin
      rcases hdone' q hq hin with hvisited | ⟨g, hg, hgq⟩ | ⟨hnil, -⟩
      · exact .inl hvisited
      · refine .inr (.inl ?_)
        rcases List.mem_cons.1 hg with rfl | hg
        · exact ⟨_, List.mem_cons_self, hgq⟩
        · exact ⟨g, List.mem_cons_of_mem _ hg, hgq⟩
      · cases hnil
  case rooted =>
    intro q hq
    rcases h.rooted q hq with hm | ⟨r, hr, -⟩ | hroot
    · exact .inl hm
    · cases hr
    · exact .inr (.inr hroot)

/-- Turning to the next root makes it due. -/
theorem turn_root {p : Path} {roots : List Path} (h : Orderly producers edges none s)
    (hframes : s.frames = []) (hroots : s.roots = p :: roots) :
    Orderly producers edges (some p) { s with roots := roots } := by
  refine { h with due_mem := ?_, looked := ?_, rooted := ?_ }
  · intro q _ f outer hcons
    rw [show s.frames = f :: outer from hcons] at hframes
    cases hframes
  · intro inner f outer hsplit
    rw [show s.frames = inner ++ f :: outer from hsplit] at hframes
    simp at hframes
  · intro q hq
    rcases h.rooted q hq with hm | ⟨r, hr, -⟩ | ⟨r, hr, hrq⟩
    · exact .inl hm
    · cases hr
    · rw [hroots] at hr
      rcases List.mem_cons.1 hr with rfl | hr
      · exact .inr (.inl ⟨_, rfl, hrq⟩)
      · exact .inr (.inr ⟨r, hr, hrq⟩)

/-- A due path that no edge produces, or that is visited, needs no look. -/
theorem skip (h : Orderly producers edges (some p) s)
    (hskip : producers.contains p = true → (p.components, Mark.visited) ∈ s.marks) :
    Orderly producers edges none s := by
  refine { h with due_mem := by simp, looked := ?_, rooted := ?_ }
  · intro inner f outer hsplit
    obtain ⟨done, hneeds, hdone⟩ := h.looked inner f outer hsplit
    refine ⟨done, hneeds, ?_⟩
    intro q hq hin
    rcases hdone q hq hin with hvisited | hinner | ⟨-, hdue⟩
    · exact .inl hvisited
    · exact .inr (.inl hinner)
    · cases hdue
      exact .inl (hskip hin)
  · intro q hq
    rcases h.rooted q hq with hm | ⟨r, hr, hrq⟩ | hroot
    · exact .inl hm
    · cases hr
      have hvisited := hskip (by rw [Producers.contains_eq_of_same hrq]; exact hq)
      rw [show p.components = q.components from hrq] at hvisited
      exact .inl ⟨.visited, hvisited⟩
    · exact .inr (.inr hroot)

/-- **Entering a path.** The due path has no mark, so it is not on the chain. -/
theorem enter (h : Orderly producers edges (some p) s) (hin : producers.contains p = true)
    (hnew : s.mark? p = none) :
    Orderly producers edges none
      { s with frames := ⟨p, producers.needs edges p⟩ :: s.frames
               marks := (p.components, .visiting) :: s.marks } := by
  -- a path on the chain carries a mark, so that a path without one can join it
  have hout : ∀ f ∈ s.frames, ¬ f.node.Same p := by
    intro f hf hfp
    have hmark := (h.visiting_iff p).2 ⟨f, hf, hfp⟩
    rw [hnew] at hmark
    cases hmark
  constructor
  case due_mem => simp
  case settled => exact ⟨by simp, h.settled⟩
  case visiting_iff =>
    intro q
    rw [Search.mark?_cons]
    by_cases hq : p.Same q
    · rw [if_pos hq]
      exact ⟨fun _ => ⟨_, List.mem_cons_self, hq⟩, fun _ => rfl⟩
    · rw [if_neg hq, h.visiting_iff q]
      constructor
      · rintro ⟨f, hf, hfq⟩
        exact ⟨f, List.mem_cons_of_mem _ hf, hfq⟩
      · rintro ⟨f, hf, hfq⟩
        rcases List.mem_cons.1 hf with rfl | hf
        · exact absurd hfq hq
        · exact ⟨f, hf, hfq⟩
  case nodes_distinct =>
    rw [List.map_cons, Path.Distinct, List.pairwise_cons]
    refine ⟨?_, h.nodes_distinct⟩
    intro q hq
    obtain ⟨f, hf, rfl⟩ := List.mem_map.1 hq
    exact fun hsame => hout f hf hsame.symm
  case produced =>
    intro f hf
    rcases List.mem_cons.1 hf with rfl | hf
    · exact hin
    · exact h.produced f hf
  case linked =>
    rw [List.map_cons, List.isChain_cons]
    refine ⟨?_, h.linked⟩
    intro q hq
    cases hframes : s.frames with
    | nil => simp [hframes] at hq
    | cons f outer =>
      have hfq : f.node = q := by simpa [hframes] using hq
      rw [← hfq]
      exact h.due_mem p rfl f outer hframes
  case looked =>
    intro inner f outer hsplit
    cases inner with
    | nil =>
      -- nothing has been looked at yet below the path just entered
      rw [List.nil_append] at hsplit
      obtain ⟨rfl, -⟩ := List.cons.inj hsplit
      exact ⟨[], rfl, by simp⟩
    | cons g inner =>
      rw [List.cons_append] at hsplit
      obtain ⟨rfl, hrest⟩ := List.cons.inj hsplit
      obtain ⟨done, hneeds, hdone⟩ := h.looked inner f outer hrest
      refine ⟨done, hneeds, ?_⟩
      intro q hq hqin
      rcases hdone q hq hqin with hvisited | ⟨g, hg, hgq⟩ | ⟨-, hdue⟩
      · exact .inl (List.mem_cons_of_mem _ hvisited)
      · exact .inr (.inl ⟨g, List.mem_cons_of_mem _ hg, hgq⟩)
      · -- the due path is on the chain now
        cases hdue
        exact .inr (.inl ⟨_, List.mem_cons_self, Path.Same.refl p⟩)
  case rooted =>
    intro q hq
    rcases h.rooted q hq with ⟨m, hm⟩ | ⟨r, hr, hrq⟩ | hroot
    · exact .inl ⟨m, List.mem_cons_of_mem _ hm⟩
    · cases hr
      refine .inl ⟨.visiting, ?_⟩
      rw [show q.components = p.components from Eq.symm hrq]
      exact List.mem_cons_self
    · exact .inr (.inr hroot)

/-! ### Circles -/

/-- Every path on the chain depends on the next. -/
theorem chain_isChain (h : Orderly producers edges due s) :
    s.chain.IsChain (DependsOn producers edges) := by
  rw [Search.chain, List.isChain_reverse]
  refine h.linked.imp_of_mem_imp ?_
  rintro inner outer hinner - hneeds
  obtain ⟨f, hf, rfl⟩ := List.mem_map.1 hinner
  exact ⟨hneeds, h.produced f hf⟩

/-- No path stands on the chain twice. -/
theorem distinct_chain (h : Orderly producers edges due s) : Path.Distinct s.chain := by
  rw [Search.chain, Path.Distinct, List.pairwise_reverse]
  exact h.nodes_distinct.imp fun hab hba => hab hba.symm

/-- The last path of the chain waits for the due one. -/
theorem due_mem_needs (h : Orderly producers edges (some p) s) {last : Path}
    (hlast : s.chain.getLast? = some last) : p ∈ producers.needs edges last := by
  rw [Search.chain, List.getLast?_reverse] at hlast
  cases hframes : s.frames with
  | nil => simp [hframes] at hlast
  | cons f outer =>
    have hf : f.node = last := by simpa [hframes] using hlast
    rw [← hf]
    exact h.due_mem p rfl f outer hframes

/-- A due path in the middle of its visit is on the chain, and the walk goes from there to its end. -/
theorem exists_closing (h : Orderly producers edges (some p) s)
    (hmark : s.mark? p = some .visiting) :
    ∃ before q rest, s.chain = before ++ q :: rest ∧ q.Same p ∧
      s.closing p = q :: (rest ++ [p]) := by
  obtain ⟨f, hf, hfp⟩ := (h.visiting_iff p).1 hmark
  have hsplit := List.takeWhile_append_dropWhile (p := fun q => !decide (q.Same p)) (l := s.chain)
  cases hwalk : s.chain.dropWhile fun q => !decide (q.Same p) with
  | nil =>
    have hmem : f.node ∈ s.chain := List.mem_reverse.2 (List.mem_map_of_mem hf)
    have hall := List.dropWhile_eq_nil_iff.1 hwalk f.node hmem
    simp [hfp] at hall
  | cons q rest =>
    rw [hwalk] at hsplit
    refine ⟨_, q, rest, hsplit.symm, ?_, ?_⟩
    · have hhead := List.head?_dropWhile_not (fun q => !decide (q.Same p)) s.chain
      rw [hwalk] at hhead
      simpa using hhead
    · rw [Search.closing, hwalk]
      rfl

/-- **Closing a walk.** The chain from a due path in the middle of its visit on, with the path met
again at its end, is a circle. -/
theorem isCircle_closing (h : Orderly producers edges (some p) s)
    (hin : producers.contains p = true) (hmark : s.mark? p = some .visiting) :
    IsCircle producers edges (s.closing p) := by
  obtain ⟨before, q, rest, hchain, hqp, hclosing⟩ := h.exists_closing hmark
  have hwalk : q :: (rest ++ [p]) = (q :: rest) ++ [p] := rfl
  have hlinked := h.chain_isChain
  have hdistinct := h.distinct_chain
  rw [hchain] at hlinked hdistinct
  rw [hclosing]
  refine ⟨?_, ⟨q, rest, p, rfl, hqp⟩, ?_⟩
  · rw [hwalk, List.isChain_append]
    refine ⟨hlinked.right_of_append, List.isChain_singleton p, ?_⟩
    intro last hlast next hnext
    rw [show next = p by simpa using Eq.symm hnext]
    refine ⟨h.due_mem_needs ?_, hin⟩
    rw [hchain, List.getLast?_append_of_ne_nil _ (List.cons_ne_nil q rest)]
    exact hlast
  · rw [hwalk, List.dropLast_concat]
    exact (List.pairwise_append.1 hdistinct).2.1

/-! ### Steps and runs -/

/-- Looking at the due path leaves an orderly search or closes a circle. -/
theorem look_cases (h : Orderly producers edges (some p) s) :
    (∃ t, Search.look producers edges p s = .going t ∧ Orderly producers edges none t) ∨
      ∃ walk, Search.look producers edges p s = .circle walk ∧ IsCircle producers edges walk := by
  cases hin : producers.contains p with
  | false =>
    refine .inl ⟨s, ?_, h.skip fun h' => ?_⟩
    · simp [Search.look, hin]
    · rw [hin] at h'
      cases h'
  | true =>
    cases hmark : s.mark? p with
    | none => exact .inl ⟨_, by simp [Search.look, Search.visit, hin, hmark], h.enter hin hmark⟩
    | some m =>
      cases m with
      | visiting =>
        exact .inr ⟨_, by simp [Search.look, Search.visit, hin, hmark],
          h.isCircle_closing hin hmark⟩
      | visited =>
        exact .inl ⟨s, by simp [Search.look, Search.visit, hin, hmark],
          h.skip fun _ => Search.mem_marks_of_mark? hmark⟩

/-- **What a step does to an orderly search.** It leads to an orderly search, closes a circle, or
finds that nothing is left. -/
theorem step_cases (h : Orderly producers edges none s) :
    (∃ t, s.step producers edges = .going t ∧ Orderly producers edges none t) ∨
      (∃ walk, s.step producers edges = .circle walk ∧ IsCircle producers edges walk) ∨
      (s.step producers edges = .done ∧ s.frames = [] ∧ s.roots = []) := by
  cases hframes : s.frames with
  | cons f outer =>
    obtain ⟨node, pending⟩ := f
    cases pending with
    | nil => exact .inl ⟨_, by simp [Search.step, hframes], h.leave hframes⟩
    | cons p pending =>
      have hstep : s.step producers edges =
          Search.look producers edges p { s with frames := ⟨node, pending⟩ :: outer } := by
        simp [Search.step, hframes]
      rw [hstep]
      exact (h.turn_inner hframes).look_cases.imp_right .inl
  | nil =>
    cases hroots : s.roots with
    | nil => exact .inr (.inr ⟨by simp [Search.step, hframes, hroots], rfl, rfl⟩)
    | cons p roots =>
      have hstep : s.step producers edges = Search.look producers edges p { s with roots := roots } := by
        simp [Search.step, hframes, hroots]
      rw [hstep]
      exact (h.turn_root hframes hroots).look_cases.imp_right .inl

/-- **What a run of an orderly search leads to**: a circle, or an orderly search with nothing left. -/
theorem run_cases (h : Orderly producers edges none s) :
    (∃ walk, s.run producers edges = some walk ∧ IsCircle producers edges walk) ∨
      (s.run producers edges = none ∧
        ∃ t, Orderly producers edges none t ∧ t.frames = [] ∧ t.roots = []) := by
  induction hn : s.potential producers edges using Nat.strong_induction_on generalizing s with
  | _ n ih =>
    rw [Search.run_eq]
    rcases h.step_cases with ⟨t, hstep, ht⟩ | ⟨walk, hstep, hwalk⟩ | ⟨hstep, hframes, hroots⟩
    · rw [hstep]
      exact ih _ (hn ▸ Search.potential_step_lt hstep) ht rfl
    · rw [hstep]
      exact .inl ⟨walk, rfl, hwalk⟩
    · rw [hstep]
      exact .inr ⟨rfl, s, h, hframes, hroots⟩

theorem visited_of_nothing_left (h : Orderly producers edges none s) (hframes : s.frames = [])
    (hroots : s.roots = []) (hp : producers.contains p = true) :
    (p.components, Mark.visited) ∈ s.marks := by
  rcases h.rooted p hp with ⟨m, hm⟩ | ⟨r, hr, -⟩ | ⟨r, hr, -⟩
  · cases hmark : s.mark? p with
    | none => exact absurd hm (Search.not_mem_marks_of_mark? hmark m)
    | some m' =>
      cases m' with
      | visited => exact Search.mem_marks_of_mark? hmark
      | visiting =>
        obtain ⟨f, hf, -⟩ := (h.visiting_iff p).1 hmark
        rw [hframes] at hf
        cases hf
  · cases hr
  · rw [hroots] at hr
    cases hr

/-- When nothing is left, the order of the visits ranks the paths. -/
theorem ranks_of_nothing_left (h : Orderly producers edges none s) (hframes : s.frames = [])
    (hroots : s.roots = []) :
    Ranks producers edges fun key => s.marks.reverse.idxOf (key, Mark.visited) := by
  intro p q hpq
  have hp := h.visited_of_nothing_left hframes hroots (Producers.contains_of_mem_needs hpq.1)
  exact h.settled.idxOf_lt hp hpq

end Orderly

/-- **From the start, the search finds a circle or ranks the paths.** -/
theorem run_start {producers : Producers} {edges : List Edge}
    (h : ∀ p, producers.contains p = true → ∃ q ∈ edges.flatMap Edge.outputs, q.Same p) :
    (∃ walk, (start edges).run producers edges = some walk ∧ IsCircle producers edges walk) ∨
      ((start edges).run producers edges = none ∧ ∃ rank, Ranks producers edges rank) := by
  rcases (Orderly.start h).run_cases with hcircle | ⟨hrun, t, ht, hframes, hroots⟩
  · exact .inl hcircle
  · exact .inr ⟨hrun, _, ht.ranks_of_nothing_left hframes hroots⟩

/-- **No circle is found exactly if the paths can be ranked.** -/
theorem find?_eq_none_iff {producers : Producers} {edges : List Edge}
    (h : ∀ p, producers.contains p = true → ∃ q ∈ edges.flatMap Edge.outputs, q.Same p) :
    find? producers edges = none ↔ ∃ rank, Ranks producers edges rank := by
  rw [find?, Option.map_eq_none_iff]
  rcases run_start h with ⟨walk, hrun, hwalk⟩ | ⟨hrun, hranks⟩
  · constructor
    · intro hnone
      rw [hrun] at hnone
      cases hnone
    · rintro ⟨rank, hrank⟩
      exact absurd hrank hwalk.not_ranks
  · exact ⟨fun _ => hranks, fun _ => hrun⟩

end Circularity

end BuildPlan
