import BuildPlan.Proofs.Draft.Consistency
import BuildPlan.Proofs.Graph.Search
import Mathlib.Order.Lattice.Nat

/-!
# Schedules

Edges can be run one after the other if they can be put in an order in which each comes after the
edges that make what it waits for. The search for circular dependencies works on paths, not on edges;
this file carries its result over.

* `Edge.WaitsFor` — one edge waits for something that another makes.
* `IsSchedule`, `Schedulable` — such an order, and that there is one.
* `schedulable_iff_rank` — there is one exactly if the edges can be ranked so that every edge has a
  higher rank than the edges it waits for.
* `exists_ranks_iff` — the edges of a consistent draft can be ranked exactly if the paths can. An edge
  takes the least rank of its outputs: they all wait for the same paths.
* **`find?_eq_none_iff_schedulable`** — in a consistent draft no circle is found exactly if the edges
  have a schedule.
-/

namespace BuildPlan

/-- Something that the edge waits for is made by the other. -/
def Edge.WaitsFor (e f : Edge) : Prop := ∃ p ∈ e.needs, p.isAmong f.outputs = true

/-- An order of the edges in which every edge comes after those it waits for. -/
structure IsSchedule (edges order : List Edge) : Prop where
  /-- The order has the same edges. -/
  perm : order.Perm edges
  /-- What an edge waits for stands before it. -/
  after : ∀ before e later, order = before ++ e :: later → ∀ f ∈ edges, e.WaitsFor f → f ∈ before

/-- The edges can be put in an order in which every edge comes after those it waits for. -/
def Schedulable (edges : List Edge) : Prop := ∃ order, IsSchedule edges order

/-- The place in a schedule is a rank. -/
theorem IsSchedule.idxOf_lt {edges order : List Edge} (h : IsSchedule edges order)
    (hnodup : edges.Nodup) {e f : Edge} (he : e ∈ edges) (hf : f ∈ edges) (hef : e.WaitsFor f) :
    order.idxOf f < order.idxOf e := by
  obtain ⟨before, later, hsplit⟩ := List.append_of_mem (h.perm.mem_iff.2 he)
  have hbefore := h.after before e later hsplit f hf hef
  have hfresh : e ∉ before := by
    have hnodup' := h.perm.nodup_iff.2 hnodup
    rw [hsplit] at hnodup'
    exact fun hmem => (List.nodup_append.1 hnodup').2.2 e hmem e List.mem_cons_self rfl
  rw [hsplit, List.idxOf_append_of_mem hbefore, List.idxOf_append_of_notMem hfresh,
    List.idxOf_cons_self]
  exact List.idxOf_lt_length_iff.2 hbefore

/-- **Edges have a schedule exactly if they can be ranked.** -/
theorem schedulable_iff_rank {edges : List Edge} (hnodup : edges.Nodup) :
    Schedulable edges ↔
      ∃ rank : Edge → Nat, ∀ e ∈ edges, ∀ f ∈ edges, e.WaitsFor f → rank f < rank e := by
  constructor
  · rintro ⟨order, horder⟩
    exact ⟨order.idxOf, fun e he f hf hef => horder.idxOf_lt hnodup he hf hef⟩
  · rintro ⟨rank, hrank⟩
    -- sorting by rank puts no edge before one of lower rank
    have hperm := List.mergeSort_perm edges fun e f => decide (rank e ≤ rank f)
    have hsorted : (edges.mergeSort fun e f => decide (rank e ≤ rank f)).Pairwise
        fun e f => decide (rank e ≤ rank f) = true := by
      refine List.pairwise_mergeSort ?_ ?_ edges
      · intro a b c hab hbc
        exact decide_eq_true (le_trans (of_decide_eq_true hab) (of_decide_eq_true hbc))
      · intro a b
        rw [Bool.or_eq_true, decide_eq_true_eq, decide_eq_true_eq]
        exact le_total _ _
    refine ⟨_, hperm, ?_⟩
    intro before e later hsplit f hf hef
    have he : e ∈ edges := by
      rw [← hperm.mem_iff, hsplit]
      exact List.mem_append_right before List.mem_cons_self
    have hlt := hrank e he f hf hef
    rw [← hperm.mem_iff, hsplit] at hf
    rw [hsplit] at hsorted
    rcases List.mem_append.1 hf with hf | hf
    · exact hf
    · rcases List.mem_cons.1 hf with rfl | hf
      · exact absurd hlt (lt_irrefl _)
      · have hle := List.rel_of_pairwise_cons (List.pairwise_append.1 hsorted).2.1 hf
        exact absurd (of_decide_eq_true hle) (not_le.2 hlt)

namespace Draft.Consistent

variable {d : Draft}

theorem contains_iff (h : d.Consistent) {p : Path} :
    d.producers.contains p = true ↔ ∃ e ∈ d.graph.edges, p.isAmong e.outputs = true := by
  rw [Producers.contains, h.producers_eq, Producers.place?_ofEdges, List.findIdx?_isSome,
    List.any_eq_true]

theorem needs_eq (h : d.Consistent) {p : Path} {e : Edge} (he : e ∈ d.graph.edges)
    (hp : p.isAmong e.outputs = true) : d.producers.needs d.graph.edges p = e.needs := by
  obtain ⟨place, hplace⟩ := List.mem_iff_getElem?.1 he
  rw [Producers.needs, h.place?_eq_some_iff.2 ⟨e, hplace, hp⟩, Option.bind_some, hplace]
  rfl

/-- **The edges can be ranked exactly if the paths can.** -/
theorem exists_ranks_iff (h : d.Consistent) :
    (∃ rank, Circularity.Ranks d.producers d.graph.edges rank) ↔
      ∃ rank : Edge → Nat, ∀ e ∈ d.graph.edges, ∀ f ∈ d.graph.edges, e.WaitsFor f →
        rank f < rank e := by
  constructor
  · rintro ⟨rank, hrank⟩
    -- the outputs of an edge may differ in rank, but each is above what the edge needs
    refine ⟨fun e => sInf {n | ∃ p ∈ e.outputs, rank p.components = n}, ?_⟩
    rintro e he f hf ⟨q, hq, hqf⟩
    obtain ⟨first, rest, hcons⟩ := List.exists_cons_of_ne_nil (h.outputs_ne_nil e he)
    have hne : {n | ∃ p ∈ e.outputs, rank p.components = n}.Nonempty :=
      ⟨_, first, hcons ▸ List.mem_cons_self, rfl⟩
    obtain ⟨p, hp, hleast⟩ := Nat.sInf_mem hne
    have hneeds := h.needs_eq he (Path.isAmong_of_mem hp)
    have hlt := hrank p q ⟨hneeds ▸ hq, h.contains_iff.2 ⟨f, hf, hqf⟩⟩
    obtain ⟨r, hr, hrq⟩ := Path.isAmong_iff.1 hqf
    have hle : sInf {n | ∃ p ∈ f.outputs, rank p.components = n} ≤ rank q.components :=
      Nat.sInf_le ⟨r, hr, congrArg rank hrq⟩
    show sInf {n | ∃ p ∈ f.outputs, rank p.components = n} <
      sInf {n | ∃ p ∈ e.outputs, rank p.components = n}
    rw [← hleast]
    exact lt_of_le_of_lt hle hlt
  · rintro ⟨rank, hrank⟩
    refine ⟨fun key => ((d.producers.lookup key).bind (d.graph.edges[·]?)).elim 0 rank, ?_⟩
    have hrankOf : ∀ {p : Path} {e : Edge}, e ∈ d.graph.edges → p.isAmong e.outputs = true →
        ((d.producers.lookup p.components).bind (d.graph.edges[·]?)).elim 0 rank = rank e := by
      intro p e he hp
      obtain ⟨place, hplace⟩ := List.mem_iff_getElem?.1 he
      rw [show d.producers.lookup p.components = some place from
        h.place?_eq_some_iff.2 ⟨e, hplace, hp⟩, Option.bind_some, hplace]
      rfl
    rintro p q ⟨hq, hin⟩
    obtain ⟨e, he, hp⟩ := h.contains_iff.1 (Producers.contains_of_mem_needs hq)
    obtain ⟨f, hf, hqf⟩ := h.contains_iff.1 hin
    rw [h.needs_eq he hp] at hq
    show ((d.producers.lookup q.components).bind (d.graph.edges[·]?)).elim 0 rank <
      ((d.producers.lookup p.components).bind (d.graph.edges[·]?)).elim 0 rank
    rw [hrankOf hf hqf, hrankOf he hp]
    exact hrank e he f hf ⟨q, hq, hqf⟩

theorem exists_output_of_contains (h : d.Consistent) {p : Path} (hp : d.producers.contains p = true) :
    ∃ q ∈ d.graph.outputs, q.Same p := by
  rw [h.producers_eq, Producers.contains_ofEdges] at hp
  exact Path.isAmong_iff.1 hp

/-- **No circle is found exactly if the edges have a schedule.** -/
theorem find?_eq_none_iff_schedulable (h : d.Consistent) :
    Circularity.find? d.producers d.graph.edges = none ↔ Schedulable d.graph.edges := by
  rw [Circularity.find?_eq_none_iff fun p hp => h.exists_output_of_contains hp, h.exists_ranks_iff,
    schedulable_iff_rank h.edges_nodup]

end Draft.Consistent

end BuildPlan
