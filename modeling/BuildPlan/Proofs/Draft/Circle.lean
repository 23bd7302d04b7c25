import BuildPlan.Proofs.Graph.Turning
import BuildPlan.Proofs.Graph.Waiting

/-!
# The circle that is reported

A draft whose dependencies are circular is refused with a list of paths. The search cuts this list out of
its chain, where the spellings are those of outputs at the start and those of inputs further on, and then
turns it. This file shows that what comes out is a circle of the graph: a walk that says who waits for
whom, comes back to its first path, and meets no other path twice.

* `Draft.Consistent.exists_circle_of_finish` — the reported list is a circle of the search, turned.
* `Graph.produced_of_isChain` — on a walk along waits, all but the last path are made.
* **`circle_of_finish`** — what is reported after any calls.
-/

namespace BuildPlan

namespace Draft

variable {d : Draft}

/-- The reported list is a circle that the search has met, turned. -/
theorem Consistent.exists_circle_of_finish (hd : d.Consistent) {cycle : List Path}
    (h : d.finish = .error (.circularDependency cycle)) :
    ∃ walk, Circularity.IsCircle d.producers d.graph.edges walk ∧
      Circularity.canonical walk = cycle := by
  have hfind : Circularity.find? d.producers d.graph.edges = some cycle := by
    unfold finish at h
    split at h
    · cases h
    · split at h
      · cases h
      · split at h
        · rename_i found hfound
          cases h
          exact hfound
        · cases h
  obtain ⟨walk, hrun, hcanonical⟩ := Option.map_eq_some_iff.1 hfind
  rcases Circularity.run_start fun p hp => hd.exists_output_of_contains hp with
    ⟨met, hmet, hcircle⟩ | ⟨hnone, -⟩
  · rw [hmet] at hrun
    rw [← Option.some.inj hrun] at hcanonical
    exact ⟨met, hcircle, hcanonical⟩
  · rw [hnone] at hrun
    cases hrun

end Draft

/-- On a walk along waits, every path but the last is made: it waits for the next. -/
theorem Graph.produced_of_isChain {g : Graph} {walk : List Path} {last : Path}
    (h : (walk ++ [last]).IsChain g.Awaits) : ∀ p ∈ walk, g.Produced p := by
  intro p hp
  obtain ⟨before, after, rfl⟩ := List.append_of_mem hp
  have hright : (p :: (after ++ [last])).IsChain g.Awaits := by
    rw [List.append_assoc] at h
    exact h.right_of_append
  cases hafter : after ++ [last] with
  | nil => simp at hafter
  | cons next rest =>
    rw [hafter] at hright
    exact (List.isChain_cons_cons.1 hright).1.produced

namespace Draft

/-- **The reported circle.** If finishing after any calls reports a circle, the list has at least two
paths and its last path is the same text as its first. Every path of it is made by some edge, in some
spelling, and needs the next, explicitly or implicitly. But for the last, no path occurs twice, and the
first comes before all others. -/
theorem circle_of_finish {calls : List Call} {cycle : List Path}
    (h : (callAll {} calls).finish = .error (.circularDependency cycle)) :
    ∃ first inner, cycle = first :: (inner ++ [first]) ∧
      (∀ p ∈ cycle, (callAll {} calls).graph.Produced p) ∧
      cycle.IsChain (callAll {} calls).graph.Awaits ∧
      Path.Distinct (first :: inner) ∧
      ∀ p ∈ inner, first.Before p := by
  have hd : (callAll {} calls).Consistent := by
    obtain ⟨xs, hxs⟩ := callAll_eq_submitAll {} calls
    exact hxs ▸ consistent_submitAll xs
  obtain ⟨walk, hcircle, hcanonical⟩ := hd.exists_circle_of_finish h
  obtain ⟨p, inner, q, rfl, hpq⟩ := hcircle.closed
  have hsimple : Path.Distinct (p :: inner) := by
    have hdrop := hcircle.simple
    rwa [← List.cons_append, List.dropLast_concat] at hdrop
  have hwaits : (p :: (inner ++ [q])).IsChain (callAll {} calls).graph.Awaits :=
    hcircle.follows.imp fun a b hab => hd.awaits_of_dependsOn hab
  -- the two ends of the walk may differ in spelling; turning leaves one of them out
  obtain ⟨first, others, hturned, hchain, hdistinct, hleast⟩ :=
    Circularity.exists_turned (fun _ _ _ hab => hab.of_same) hpq hsimple hwaits
  rw [← hcanonical, hturned]
  have hproduced : ∀ r ∈ first :: others, (callAll {} calls).graph.Produced r :=
    Graph.produced_of_isChain hchain
  refine ⟨first, others, rfl, ?_, hchain, hdistinct, hleast⟩
  intro r hr
  rw [← List.cons_append] at hr
  rcases List.mem_append.1 hr with hr | hr
  · exact hproduced r hr
  · rw [List.mem_singleton.1 hr]
    exact hproduced first List.mem_cons_self

/-- Two files that are made from each other, one of them spelled with a slash too many where it is
needed. -/
def mutualCalls : List Call :=
  [.declare (.rule { name := "touch", command := ⟨[.literal "touch"]⟩ }),
   .declare (.edge { rule := "touch", outputs := [⟨"d/b"⟩], inputs := [⟨"c"⟩, ⟨"a"⟩] }),
   .declare (.edge { rule := "touch", outputs := [⟨"a"⟩], inputs := [], implicitInputs := [⟨"d//b"⟩] })]

theorem circle_of_finish_mutualCalls :
    (callAll {} mutualCalls).finish = .error (.circularDependency [⟨"a"⟩, ⟨"d/b"⟩, ⟨"a"⟩]) ∧
      (callAll {} mutualCalls).graph.Awaits ⟨"a"⟩ ⟨"d/b"⟩ ∧
      (callAll {} mutualCalls).graph.Awaits ⟨"d/b"⟩ ⟨"a"⟩ ∧ (Path.mk "a").Before ⟨"d/b"⟩ := by
  have hbound : unbound? (callAll {} mutualCalls).graph = none := by decide +kernel
  have hproduced : (callAll {} mutualCalls).unproduced? = none := by decide +kernel
  have hfind : Circularity.find? (callAll {} mutualCalls).producers
      (callAll {} mutualCalls).graph.edges = some [⟨"a"⟩, ⟨"d/b"⟩, ⟨"a"⟩] := by decide +kernel
  have hfinish : (callAll {} mutualCalls).finish =
      .error (.circularDependency [⟨"a"⟩, ⟨"d/b"⟩, ⟨"a"⟩]) := by
    rw [finish, hbound, hproduced, hfind]
  obtain ⟨first, inner, hcycle, -, hchain, -, hbefore⟩ := circle_of_finish hfinish
  obtain ⟨rfl, hinner⟩ := List.cons.inj hcycle
  have hothers : [Path.mk "d/b"] = inner := List.append_cancel_right hinner
  obtain ⟨hforth, hback⟩ := List.isChain_cons_cons.1 hchain
  refine ⟨hfinish, hforth, (List.isChain_cons_cons.1 hback).1, hbefore _ ?_⟩
  rw [← hothers]
  exact List.mem_singleton_self _

end Draft

end BuildPlan
