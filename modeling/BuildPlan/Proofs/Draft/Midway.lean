import BuildPlan.Proofs.Graph.Stepping
import BuildPlan.Proofs.Graph.Waiting

/-!
# In the middle of a search

A finished draft has no circles, and of an unfinished one the search reports a circle if there is one. This
file says what holds while the search is under way, each time that it looks at a path which some edge makes.
The marks say where a path stands: those in the middle of their visit are the chain, and those visited are
done with, together with all that they wait for.

* `Search.call?` — the look that a search is about to take, if the path that comes next is made.
* `Orderly.of_runs`, `Orderly.turn` — the invariant of the search holds at every such look.
* `Lasting` — a path once visited stays visited.
* `Draft.Consistent.rank_of_awaitsMade` — what a visited path waits for was visited before it, so the order of
  the visits ranks the visited paths; `not_same_of_visited` concludes that none of them is on a circle.
* **`call_in_order`** — all that holds at a look.
-/

namespace BuildPlan

namespace Circularity

variable {producers : Producers} {edges : List Edge} {s t : Search} {p : Path}

/-! ### Looks at produced paths -/

namespace Search

/-- The look that a search is about to take at a produced path: the path, and the search as it is then. -/
def call? (producers : Producers) (s : Search) : Option (Path × Search) :=
  match s.awaiting with
  | [] => none
  | p :: ps => if producers.contains p then some (p, s.withAwaiting ps) else none

theorem call?_eq_some (h : s.call? producers = some (p, t)) :
    ∃ ps, s.awaiting = p :: ps ∧ producers.contains p = true ∧ t = s.withAwaiting ps := by
  rw [call?] at h
  split at h
  · cases h
  · rename_i q ps hnext
    split at h
    · rename_i hin
      cases h
      exact ⟨ps, hnext, hin, rfl⟩
    · cases h

/-- The next step is this look. -/
theorem step_of_call? (h : s.call? producers = some (p, t)) :
    s.step producers edges = t.visit producers edges p := by
  obtain ⟨ps, hnext, hin, rfl⟩ := call?_eq_some h
  rw [step_of_awaiting hnext, look, if_pos hin]

end Search

namespace Orderly

/-- Turning to the path that comes next makes it due. -/
theorem turn {ps : List Path} (h : Orderly producers edges none s) (hnext : s.awaiting = p :: ps) :
    Orderly producers edges (some p) (s.withAwaiting ps) := by
  obtain ⟨roots, frames, marks⟩ := s
  cases frames with
  | nil =>
    obtain rfl : roots = p :: ps := hnext
    exact h.turn_root rfl rfl
  | cons f outer =>
    obtain ⟨node, pending⟩ := f
    obtain rfl : pending = p :: ps := hnext
    exact h.turn_inner rfl

theorem step {next : Search} (h : Orderly producers edges none s)
    (hstep : s.step producers edges = .going next) : Orderly producers edges none next := by
  rcases h.step_cases with ⟨t, ht, horderly⟩ | ⟨walk, ht, -⟩ | ⟨ht, -, -⟩
  · rw [hstep] at ht
    cases ht
    exact horderly
  · rw [hstep] at ht
    cases ht
  · rw [hstep] at ht
    cases ht

/-- Steps keep a search orderly. -/
theorem of_runs {walked : List Path} (h : Orderly producers edges none s)
    (hruns : s.Runs producers edges walked t) : Orderly producers edges none t :=
  hruns.preserves (fun horderly hstep => horderly.step hstep) h

end Orderly

/-! ### Visited paths stay visited -/

/-- A path once visited has that mark still. -/
def Lasting (s : Search) : Prop :=
  ∀ p : Path, (p.components, Mark.visited) ∈ s.marks → s.mark? p = some .visited

theorem lasting_start (edges : List Edge) : Lasting (start edges) := by
  intro p hp
  cases hp

/-- A mark is given to a path that has none, or it is that of a visited path. -/
theorem Lasting.step {next : Search} (h : Lasting s) (hstep : s.step producers edges = .going next) :
    Lasting next := by
  intro q hq
  rcases Search.going_cases hstep with
    ⟨node, outer, -, rfl⟩ | ⟨p, ps, -, rfl⟩ | ⟨p, ps, -, -, hmark, rfl⟩
  · rw [Search.mark?_cons]
    by_cases hsame : node.Same q
    · rw [if_pos hsame]
    · rw [if_neg hsame]
      rcases List.mem_cons.1 hq with heq | hq
      · exact absurd (Prod.mk.inj heq).1.symm hsame
      · exact h q hq
  · rw [Search.marks_withAwaiting] at hq
    rw [Search.mark?_withAwaiting]
    exact h q hq
  · rw [Search.entered, Search.mark?_cons]
    rcases List.mem_cons.1 hq with heq | hq
    · cases (Prod.mk.inj heq).2
    · rw [Search.marks_withAwaiting] at hq
      have hvisited := h q hq
      -- the path that is entered had no mark, so it is another one
      have hother : ¬ p.Same q := by
        intro hsame
        rw [Search.mark?, show p.components = q.components from hsame, ← Search.mark?, hvisited] at hmark
        cases hmark
      rw [if_neg hother]
      exact (Search.mark?_withAwaiting s ps q).trans hvisited

theorem Lasting.of_runs {walked : List Path} (h : Lasting s) (hruns : s.Runs producers edges walked t) :
    Lasting t :=
  hruns.preserves (fun hlasting hstep => hlasting.step hstep) h

theorem Lasting.mark?_iff (h : Lasting s) :
    s.mark? p = some .visited ↔ (p.components, Mark.visited) ∈ s.marks :=
  ⟨Search.mem_marks_of_mark?, h p⟩

end Circularity

/-! ### What the marks say of a draft -/

namespace Draft

open Circularity

variable {d : Draft} {s t : Search} {p q r : Path}

namespace Consistent

/-- What a visited path waits for was visited before it, if an edge makes it. -/
theorem rank_of_awaitsMade (hd : d.Consistent) {marks : List (List Component × Mark)}
    (hsettled : Settled d.producers d.graph.edges marks) (hq : (q.components, Mark.visited) ∈ marks)
    (hqr : d.graph.AwaitsMade q r) :
    (r.components, Mark.visited) ∈ marks ∧
      marks.reverse.idxOf (r.components, Mark.visited) <
        marks.reverse.idxOf (q.components, Mark.visited) := by
  obtain ⟨w, hwr, hdepends⟩ := hd.dependsOn_of_awaits hqr.1 hqr.2
  have hlt := hsettled.idxOf_lt hq hdepends
  rw [show w.components = r.components from hwr] at hlt
  refine ⟨?_, hlt⟩
  rw [← List.mem_reverse] at hq ⊢
  exact List.idxOf_lt_length_iff.1 (lt_trans hlt (List.idxOf_lt_length_iff.2 hq))

/-- So is all that it waits for in turn. -/
theorem rank_of_transGen (hd : d.Consistent) {marks : List (List Component × Mark)}
    (hsettled : Settled d.producers d.graph.edges marks) (hq : (q.components, Mark.visited) ∈ marks)
    (hqr : Relation.TransGen d.graph.AwaitsMade q r) :
    (r.components, Mark.visited) ∈ marks ∧
      marks.reverse.idxOf (r.components, Mark.visited) <
        marks.reverse.idxOf (q.components, Mark.visited) := by
  induction hqr with
  | single hstep => exact hd.rank_of_awaitsMade hsettled hq hstep
  | tail _ hstep ih =>
    obtain ⟨hmem, hlt⟩ := hd.rank_of_awaitsMade hsettled ih.1 hstep
    exact ⟨hmem, lt_trans hlt ih.2⟩

/-- **A visited path is on no circle.** Along its way round the order of the visits would go down and come
back up. -/
theorem not_same_of_visited (hd : d.Consistent) {marks : List (List Component × Mark)}
    (hsettled : Settled d.producers d.graph.edges marks) (hq : (q.components, Mark.visited) ∈ marks)
    (hqr : Relation.TransGen d.graph.AwaitsMade q r) : ¬ q.Same r := by
  intro hsame
  have hlt := (hd.rank_of_transGen hsettled hq hqr).2
  rw [show q.components = r.components from hsame] at hlt
  exact lt_irrefl _ hlt

end Consistent

/-- **What holds when the search looks at a path.** Take any draft that calls lead to, any moment of the
search over it, and let the next step look at a path that some edge makes. Then the paths in the middle of
their visit are those on the chain, each once; each path of the chain waits for the next, and the last waits
for the path that is looked at; and what a visited path waits for is visited too, if an edge makes it, and no
way leads from a visited path back to it. So if the path that is looked at is in the middle of its visit, the
chain has it, and the walk that is closed starts there. -/
theorem call_in_order {calls : List Call} {walked : List Path}
    (hruns : (start (callAll {} calls).graph.edges).Runs (callAll {} calls).producers
      (callAll {} calls).graph.edges walked s)
    (hcall : s.call? (callAll {} calls).producers = some (p, t)) :
    s.step (callAll {} calls).producers (callAll {} calls).graph.edges =
        t.visit (callAll {} calls).producers (callAll {} calls).graph.edges p ∧
      (∀ q, t.mark? q = some .visiting ↔ q.isAmong t.chain = true) ∧
      Path.Distinct t.chain ∧
      (t.chain ++ [p]).IsChain (callAll {} calls).graph.Awaits ∧
      (∀ q, t.mark? q = some .visited →
        (∀ r, (callAll {} calls).graph.AwaitsMade q r → t.mark? r = some .visited) ∧
        ∀ r, Relation.TransGen (callAll {} calls).graph.AwaitsMade q r → ¬ q.Same r) ∧
      (t.mark? p = some .visiting →
        t.chain.dropWhile (fun q => !decide (q.Same p)) ≠ [] ∧
        ∃ before q rest, t.chain = before ++ q :: rest ∧ q.Same p ∧ t.closing p = q :: (rest ++ [p])) := by
  obtain ⟨xs, hxs⟩ := callAll_eq_submitAll {} calls
  have hd : (callAll {} calls).Consistent := hxs ▸ consistent_submitAll xs
  have horderly := (Orderly.start fun _ hp => hd.exists_output_of_contains hp).of_runs hruns
  have hlasting := (lasting_start _).of_runs hruns
  obtain ⟨ps, hnext, hin, rfl⟩ := Search.call?_eq_some hcall
  have hturned := horderly.turn hnext
  have hmarks : ∀ q, (s.withAwaiting ps).mark? q = some .visited ↔
      (q.components, Mark.visited) ∈ (s.withAwaiting ps).marks := by
    intro q
    rw [Search.mark?_withAwaiting, Search.marks_withAwaiting]
    exact hlasting.mark?_iff
  refine ⟨Search.step_of_call? hcall, ?_, hturned.distinct_chain, ?_, ?_, ?_⟩
  · intro q
    rw [hturned.visiting_iff, Path.isAmong_iff, Search.chain]
    simp only [List.mem_reverse, List.mem_map, exists_exists_and_eq_and]
  · rw [List.isChain_append]
    refine ⟨hturned.chain_isChain.imp fun _ _ hab => hd.awaits_of_dependsOn hab, List.isChain_singleton p, ?_⟩
    intro last hlast next hfirst
    rw [show next = p by simpa using Eq.symm hfirst]
    exact hd.awaits_of_dependsOn ⟨hturned.due_mem_needs hlast, hin⟩
  · intro q hq
    rw [hmarks] at hq
    refine ⟨fun r hqr => ?_, fun r hqr => hd.not_same_of_visited hturned.settled hq hqr⟩
    rw [hmarks]
    exact (hd.rank_of_awaitsMade hturned.settled hq hqr).1
  · intro hmark
    obtain ⟨before, q, rest, hchain, hqp, hclosing⟩ := hturned.exists_closing hmark
    refine ⟨fun hnil => ?_, before, q, rest, hchain, hqp, hclosing⟩
    have hall := List.dropWhile_eq_nil_iff.1 hnil q (hchain ▸ List.mem_append_right _ List.mem_cons_self)
    simp [hqp] at hall

/-- A file that needs a second one and itself, with a slash too many. -/
def selfNeedingCalls : List Call :=
  [.declare (.rule { name := "touch", command := ⟨[.literal "touch"]⟩ }),
   .declare (.edge { rule := "touch", outputs := [⟨"d/a"⟩], inputs := [⟨"lib"⟩, ⟨"d//a"⟩] }),
   .declare (.edge { rule := "touch", outputs := [⟨"lib"⟩], inputs := [] })]

/-- The search over it, with the second file behind it and about to look at the first one again. -/
def backAgain : Search :=
  { roots := [⟨"lib"⟩]
    frames := [⟨⟨"d/a"⟩, [⟨"d//a"⟩]⟩]
    marks := [((Path.mk "lib").components, .visited), ((Path.mk "lib").components, .visiting),
      ((Path.mk "d/a").components, .visiting)] }

theorem call_in_order_selfNeedingCalls :
    (∃ walked, (start (callAll {} selfNeedingCalls).graph.edges).Runs (callAll {} selfNeedingCalls).producers
      (callAll {} selfNeedingCalls).graph.edges walked backAgain) ∧
      backAgain.call? (callAll {} selfNeedingCalls).producers =
        some (⟨"d//a"⟩, backAgain.withAwaiting []) ∧
      backAgain.step (callAll {} selfNeedingCalls).producers (callAll {} selfNeedingCalls).graph.edges =
        .circle [⟨"d/a"⟩, ⟨"d//a"⟩] ∧
      (callAll {} selfNeedingCalls).graph.Awaits ⟨"d/a"⟩ ⟨"d//a"⟩ ∧
      ∀ r, Relation.TransGen (callAll {} selfNeedingCalls).graph.AwaitsMade ⟨"lib"⟩ r →
        ¬ (Path.mk "lib").Same r := by
  have henter : (start (callAll {} selfNeedingCalls).graph.edges).step
      (callAll {} selfNeedingCalls).producers (callAll {} selfNeedingCalls).graph.edges =
      .going ⟨[⟨"lib"⟩], [⟨⟨"d/a"⟩, [⟨"lib"⟩, ⟨"d//a"⟩]⟩], [((Path.mk "d/a").components, .visiting)]⟩ := by
    decide +kernel
  have hdown : Search.step (callAll {} selfNeedingCalls).producers
      (callAll {} selfNeedingCalls).graph.edges
      ⟨[⟨"lib"⟩], [⟨⟨"d/a"⟩, [⟨"lib"⟩, ⟨"d//a"⟩]⟩], [((Path.mk "d/a").components, .visiting)]⟩ =
      .going ⟨[⟨"lib"⟩], [⟨⟨"lib"⟩, []⟩, ⟨⟨"d/a"⟩, [⟨"d//a"⟩]⟩],
        [((Path.mk "lib").components, .visiting), ((Path.mk "d/a").components, .visiting)]⟩ := by
    decide +kernel
  have hruns := Search.Runs.step henter (.step hdown (.step (Search.step_leave rfl) (.refl _)))
  have hcall : backAgain.call? (callAll {} selfNeedingCalls).producers =
      some (⟨"d//a"⟩, backAgain.withAwaiting []) := by decide +kernel
  have hvisiting : (backAgain.withAwaiting []).mark? ⟨"d//a"⟩ = some .visiting := by decide +kernel
  have hvisited : (backAgain.withAwaiting []).mark? ⟨"lib"⟩ = some .visited := by decide +kernel
  obtain ⟨hstep, -, -, hchain, hdone, hmet⟩ := call_in_order (s := backAgain) hruns hcall
  obtain ⟨-, before, q, rest, hsplit, -, hclosing⟩ := hmet hvisiting
  obtain ⟨rfl, rfl, rfl⟩ : before = [] ∧ q = ⟨"d/a"⟩ ∧ rest = [] := by
    have hone : [Path.mk "d/a"] = before ++ q :: rest := hsplit
    rcases List.append_eq_singleton_iff.1 hone.symm with ⟨hbefore, htail⟩ | ⟨-, htail⟩
    · exact ⟨hbefore, (List.cons.inj htail).1, (List.cons.inj htail).2⟩
    · cases htail
  refine ⟨⟨_, hruns⟩, hcall, ?_, (List.isChain_cons_cons.1 hchain).1, (hdone _ hvisited).2⟩
  rw [hstep, Search.visit, hvisiting]
  exact congrArg Progress.circle hclosing

end Draft

end BuildPlan
