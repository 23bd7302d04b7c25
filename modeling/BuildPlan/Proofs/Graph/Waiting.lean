import BuildPlan.Proofs.Draft.Finishing
import Mathlib.Logic.Relation

/-!
# What the paths of a graph wait for

A path that an edge makes waits for all that this edge needs. Finishing a draft makes sure that nothing
waits for itself, however long the way round. The search that does so speaks of an index and of edges
by their places; this file says the same of the graph alone, up to the spelling of paths.

* `Graph.Awaits` — the one edge that makes a path needs the other; `Graph.AwaitsMade` — and an edge
  makes that one too.
* `Draft.Consistent.awaits_of_dependsOn`, `dependsOn_of_awaits` — this is what the search follows.
* `Graph.Finished.exists_rank` — the paths of a finished graph can be ranked, so that what is waited for
  has a lower rank.
* **`Graph.Finished.not_same_of_awaits`** — in a finished graph no way leads from a path back to it,
  whatever the spellings.
-/

namespace BuildPlan

namespace Graph

/-- Exactly one edge makes the path, and it needs the other, explicitly or implicitly and in some
spelling. -/
def Awaits (g : Graph) (p q : Path) : Prop :=
  ∃ e, g.edges.filter (fun f => p.isAmong f.outputs) = [e] ∧ q.isAmong e.needs = true

/-- The same for a path that an edge makes in turn. -/
def AwaitsMade (g : Graph) (p q : Path) : Prop := g.Awaits p q ∧ g.Produced q

variable {g : Graph} {p q r : Path}

theorem Awaits.exists_edge (h : g.Awaits p q) :
    ∃ e ∈ g.edges, p.isAmong e.outputs = true ∧ q.isAmong e.needs = true := by
  obtain ⟨e, hfilter, hq⟩ := h
  have he : e ∈ g.edges.filter fun f => p.isAmong f.outputs := by
    rw [hfilter]
    exact List.mem_singleton_self e
  obtain ⟨hmem, hp⟩ := List.mem_filter.1 he
  exact ⟨e, hmem, hp, hq⟩

theorem Awaits.produced (h : g.Awaits p q) : g.Produced p := by
  obtain ⟨e, he, hp, -⟩ := h.exists_edge
  exact ⟨e, he, Path.isAmong_iff.1 hp⟩

/-- What is waited for may be spelled in another way. -/
theorem Awaits.of_same (h : g.Awaits p q) (hqr : q.Same r) : g.Awaits p r := by
  obtain ⟨e, hfilter, hq⟩ := h
  obtain ⟨s, hs, hsq⟩ := Path.isAmong_iff.1 hq
  exact ⟨e, hfilter, Path.isAmong_iff.2 ⟨s, hs, hsq.trans hqr⟩⟩

theorem Produced.of_same (h : g.Produced p) (hpq : p.Same q) : g.Produced q := by
  obtain ⟨e, he, s, hs, hsp⟩ := h
  exact ⟨e, he, s, hs, hsp.trans hpq⟩

end Graph

namespace Draft.Consistent

variable {d : Draft} {p q : Path}

theorem awaits_of_mem (h : d.Consistent) {e : Edge} (he : e ∈ d.graph.edges)
    (hp : p.isAmong e.outputs = true) (hq : q.isAmong e.needs = true) : d.graph.Awaits p q :=
  ⟨e, h.filter_isAmong he hp, hq⟩

/-- What a path depends on, it waits for. -/
theorem awaits_of_dependsOn (h : d.Consistent)
    (hpq : Circularity.DependsOn d.producers d.graph.edges p q) : d.graph.Awaits p q := by
  obtain ⟨hq, -⟩ := hpq
  obtain ⟨e, he, hp⟩ := h.contains_iff.1 (Producers.contains_of_mem_needs hq)
  rw [h.needs_eq he hp] at hq
  exact h.awaits_of_mem he hp (Path.isAmong_of_mem hq)

/-- What a path waits for it depends on, in some spelling, if an edge makes it. -/
theorem dependsOn_of_awaits (h : d.Consistent) (hpq : d.graph.Awaits p q)
    (hq : d.graph.Produced q) :
    ∃ s, s.Same q ∧ Circularity.DependsOn d.producers d.graph.edges p s := by
  obtain ⟨e, he, hp, hneeds⟩ := hpq.exists_edge
  obtain ⟨s, hs, hsq⟩ := Path.isAmong_iff.1 hneeds
  refine ⟨s, hsq, ?_, ?_⟩
  · rw [h.needs_eq he hp]
    exact hs
  · rw [h.contains_iff_produced]
    exact hq.of_same hsq.symm

end Draft.Consistent

namespace Graph.Finished

variable {g : Graph} {p q r : Path}

theorem awaits_of_mem (h : g.Finished) {e : Edge} (he : e ∈ g.edges) (hp : p ∈ e.outputs)
    (hq : q ∈ e.needs) : g.Awaits p q := by
  obtain ⟨d, hd, -, rfl⟩ := h.exists_consistent
  exact hd.awaits_of_mem he (Path.isAmong_of_mem hp) (Path.isAmong_of_mem hq)

/-- **The paths of a finished graph can be ranked**: whatever is waited for and made has a lower rank. -/
theorem exists_rank (h : g.Finished) :
    ∃ rank : List Component → Nat, ∀ p q, g.AwaitsMade p q →
      rank q.components < rank p.components := by
  obtain ⟨d, hd, hfinish, rfl⟩ := h.exists_consistent
  obtain ⟨-, -, hschedulable⟩ := hd.finish_eq_ok_iff.1 ⟨_, hfinish⟩
  -- a schedule ranks the edges, and a path takes the rank of the edge that makes it
  obtain ⟨rank, hrank⟩ := hd.exists_ranks_iff.2 ((schedulable_iff_rank hd.edges_nodup).1 hschedulable)
  refine ⟨rank, ?_⟩
  rintro p q ⟨hpq, hq⟩
  obtain ⟨s, hsq, hps⟩ := hd.dependsOn_of_awaits hpq hq
  rw [← show s.components = q.components from hsq]
  exact hrank p s hps

/-- A way from one made path to the next goes down in rank. -/
theorem rank_lt_of_transGen {rank : List Component → Nat}
    (hrank : ∀ p q, g.AwaitsMade p q → rank q.components < rank p.components)
    (hpq : Relation.TransGen g.AwaitsMade p q) : rank q.components < rank p.components := by
  induction hpq with
  | single hstep => exact hrank _ _ hstep
  | tail _ hstep ih => exact lt_trans (hrank _ _ hstep) ih

/-- **Nothing waits for itself**, in any spelling and however long the way. If the path at the end of the
way were the first path, it would be made as well, and the way would go down in rank and come back up. -/
theorem not_same_of_awaits (h : g.Finished) (hpq : Relation.ReflTransGen g.AwaitsMade p q)
    (hqr : g.Awaits q r) : ¬ p.Same r := by
  obtain ⟨rank, hrank⟩ := h.exists_rank
  intro hsame
  have hp : g.Produced p := by
    rcases hpq.cases_head with rfl | ⟨next, hstep, -⟩
    · exact hqr.produced
    · exact hstep.1.produced
  have hlt := rank_lt_of_transGen hrank (Relation.TransGen.tail' hpq ⟨hqr, hp.of_same hsame⟩)
  rw [show p.components = r.components from hsame] at hlt
  exact lt_irrefl _ hlt

end Graph.Finished

end BuildPlan
