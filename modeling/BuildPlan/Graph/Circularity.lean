import BuildPlan.Graph.Basic

/-!
# Circular dependencies

A path depends on all that the edge producing it waits for. Only produced paths matter here: a path
that no edge produces depends on nothing. This file looks for a circle of such dependencies, depth
first.

* A `Search` holds the paths still to be entered, the chain of paths entered and not yet left with
  what each of them still waits for, and a mark on every path entered so far.
* `step` does one thing: it looks at one more dependency, enters a path, or leaves one.
* `potential_step_lt` says that every step uses up some of a potential, which counts the pending work
  and what the paths without a mark would cost. So the search comes to an end on every graph,
  circular or not.
* `find?` runs the search over all outputs. A circle is found when a path on the chain is met again.
* `canonical` turns a circle so that its least path comes first, whichever path the search entered
  first.

Marks are kept apart from the chain. A path is *visiting* from the moment it is entered and *visited*
from the moment it is left; the newest mark counts.
-/

namespace BuildPlan

namespace Circularity

/-! ### Turning a circle -/

/-- The least of a list of paths and one more before it; the first of several. -/
def least (p : Path) (rest : List Path) : Path :=
  rest.foldl (fun best q => if q.Before best then q else best) p

/-- The circle turned so that it starts and ends with its least path. The argument is a closed walk:
its last path stands for the same node as its first. A walk of less than two paths is left alone. -/
def canonical (walk : List Path) : List Path :=
  match walk.dropLast with
  | [] => walk
  | p :: rest =>
    let first := least p rest
    (p :: rest).dropWhile (· ≠ first) ++ (p :: rest).takeWhile (· ≠ first) ++ [first]

/-- Turning keeps the length. -/
theorem length_canonical (walk : List Path) : (canonical walk).length = walk.length := by
  unfold canonical
  split
  · rfl
  · rename_i p rest h
    have hlen : walk.length - 1 = rest.length + 1 := by
      rw [← List.length_dropLast, h, List.length_cons]
    have htwo := congrArg List.length
      (List.takeWhile_append_dropWhile (p := (· ≠ least p rest)) (l := p :: rest))
    simp only [List.length_append, List.length_cons, List.length_nil] at htwo ⊢
    omega

example : canonical (["c", "a", "b", "c"].map Path.mk) = ["a", "b", "c", "a"].map Path.mk := by
  decide
example : canonical [⟨"x//y"⟩, ⟨"x/y"⟩] = [⟨"x//y"⟩, ⟨"x//y"⟩] := by decide
example : canonical [⟨"a"⟩] = [⟨"a"⟩] := by decide

/-! ### The search -/

/-- How far the search is with a path. -/
inductive Mark where
  /-- Entered and not yet left. -/
  | visiting
  /-- Left. -/
  | visited
deriving DecidableEq

/-- A path entered, with what it still waits for. -/
structure Frame where
  node : Path
  /-- The dependencies not yet looked at. -/
  pending : List Path
deriving DecidableEq

/-- A search under way. -/
structure Search where
  /-- The paths still to be entered from outside. -/
  roots : List Path
  /-- The chain of paths entered and not yet left, innermost first. -/
  frames : List Frame
  /-- The marks given, newest first. -/
  marks : List (List Component × Mark)
deriving DecidableEq

/-- What one step leads to. -/
inductive Progress where
  /-- A circle was met: this closed walk. -/
  | circle (walk : List Path)
  /-- Nothing is left to look at. -/
  | done
  /-- The search goes on. -/
  | going (s : Search)
deriving DecidableEq

namespace Search

def mark? (s : Search) (p : Path) : Option Mark := s.marks.lookup p.components

/-- The chain from the outermost path to the innermost. -/
def chain (s : Search) : List Path := (s.frames.map Frame.node).reverse

/-- The walk that meeting a path again closes: the chain from that path on, then the path. Were it
not on the chain, all of the chain would be taken. -/
def closing (s : Search) (p : Path) : List Path :=
  match s.chain.dropWhile (fun q => !decide (q.Same p)) with
  | [] => s.chain ++ [p]
  | walk => walk ++ [p]

/-- Look at a produced path: a visited one needs nothing more, a visiting one closes a circle, and
any other is entered. -/
def visit (producers : Producers) (edges : List Edge) (p : Path) (s : Search) : Progress :=
  match s.mark? p with
  | some .visited => .going s
  | some .visiting => .circle (s.closing p)
  | none =>
    .going { s with
      frames := ⟨p, producers.needs edges p⟩ :: s.frames
      marks := (p.components, .visiting) :: s.marks }

/-- Look at a path, which matters only if some edge produces it. -/
def look (producers : Producers) (edges : List Edge) (p : Path) (s : Search) : Progress :=
  if producers.contains p then s.visit producers edges p else .going s

/-- One step: look at the next dependency of the innermost path, leave that path when it has none
left, or turn to the next root when the chain is empty. -/
def step (producers : Producers) (edges : List Edge) (s : Search) : Progress :=
  match s.frames with
  | ⟨node, []⟩ :: outer =>
    .going { s with frames := outer, marks := (node.components, .visited) :: s.marks }
  | ⟨node, p :: pending⟩ :: outer =>
    look producers edges p { s with frames := ⟨node, pending⟩ :: outer }
  | [] =>
    match s.roots with
    | [] => .done
    | p :: roots => look producers edges p { s with roots := roots }

/-! ### Why the search ends -/

/-- A measure added up over a list. -/
def total {α : Type} (f : α → Nat) : List α → Nat
  | [] => 0
  | x :: rest => f x + total f rest

@[simp] theorem total_nil {α : Type} (f : α → Nat) : total f [] = 0 := rfl

@[simp] theorem total_cons {α : Type} (f : α → Nat) (x : α) (rest : List α) :
    total f (x :: rest) = f x + total f rest := rfl

/-- The steps that a path may still take once it is entered: one for each of its dependencies, one
for leaving it, and one that pays for entering it. -/
def cost (edges : List Edge) (place : Nat) : Nat := (edges[place]?.elim [] Edge.needs).length + 2

/-- The part of the potential that lies in paths without a mark. -/
def dormant (producers : Producers) (edges : List Edge) (marks : List (List Component × Mark)) : Nat :=
  total (fun entry => if (marks.lookup entry.1).isNone then cost edges entry.2 else 0) producers

/-- The pending work: every root, every frame and every dependency of a frame counts once. -/
def work (s : Search) : Nat :=
  s.roots.length + total (fun f => f.pending.length + 1) s.frames

/-- An upper bound on the steps still to come: the pending work and the cost of every path without a
mark. -/
def potential (producers : Producers) (edges : List Edge) (s : Search) : Nat :=
  s.work + dormant producers edges s.marks

/-- Of two measures of which one is nowhere greater, the total of the lesser is less by what any one
member loses. -/
theorem total_add_le {α : Type} {f g : α → Nat} (hle : ∀ x, f x ≤ g x) {l : List α} {a : α}
    (ha : a ∈ l) : total f l + g a ≤ total g l + f a := by
  have whole : ∀ l : List α, total f l ≤ total g l := fun l => by
    induction l with
    | nil => simp
    | cons b l ih => simp only [total_cons]; have := hle b; omega
  induction l with
  | nil => cases ha
  | cons b l ih =>
    simp only [total_cons]
    cases ha with
    | head => have := whole l; omega
    | tail _ ha => have := ih ha; have := hle b; omega

/-- A mark more takes nothing away from any path's mark. -/
theorem dormant_term_le (edges : List Edge) (marks : List (List Component × Mark))
    (key : List Component) (m : Mark) (entry : List Component × Nat) :
    (if (List.lookup entry.1 ((key, m) :: marks)).isNone then cost edges entry.2 else 0) ≤
      if (marks.lookup entry.1).isNone then cost edges entry.2 else 0 := by
  rw [List.lookup_cons]
  split <;> split <;> simp_all

/-- A mark more does not raise the dormant part. -/
theorem dormant_cons_le (producers : Producers) (edges : List Edge)
    (marks : List (List Component × Mark)) (key : List Component) (m : Mark) :
    dormant producers edges ((key, m) :: marks) ≤ dormant producers edges marks := by
  unfold dormant
  induction producers with
  | nil => simp
  | cons entry rest ih =>
    simp only [total_cons]
    have := dormant_term_le edges marks key m entry
    omega

/-- The first mark on an indexed path frees its cost. -/
theorem dormant_cons_add_le {producers : Producers} {marks : List (List Component × Mark)}
    {p : Path} (edges : List Edge) (m : Mark) (hin : producers.contains p = true)
    (hnew : marks.lookup p.components = none) :
    dormant producers edges ((p.components, m) :: marks) + (producers.needs edges p).length + 2 ≤
      dormant producers edges marks := by
  obtain ⟨place, hplace⟩ := Option.isSome_iff_exists.1 hin
  obtain ⟨before, after, hsplit, -⟩ := List.lookup_eq_some_iff.1 hplace
  have hmem : (p.components, place) ∈ producers := by simp [hsplit]
  have hsum := total_add_le (dormant_term_le edges marks p.components m) hmem
  have hneeds : producers.needs edges p = edges[place]?.elim [] Edge.needs := by
    simp [Producers.needs, hplace]
  simp only [hnew, List.lookup_cons_self] at hsum
  unfold dormant
  rw [hneeds]
  simp [cost] at hsum ⊢
  omega

/-- **Every step lowers the potential.** So the search takes no more steps than that. -/
theorem potential_step_lt {producers : Producers} {edges : List Edge} {s next : Search}
    (h : s.step producers edges = .going next) :
    next.potential producers edges < s.potential producers edges := by
  have looked : ∀ {p : Path} {t : Search}, look producers edges p t = .going next →
      next.potential producers edges ≤ t.potential producers edges := by
    intro p t hlook
    unfold look at hlook
    split at hlook
    · rename_i hin
      unfold visit at hlook
      split at hlook
      · cases hlook
        exact Nat.le_refl _
      · cases hlook
      · rename_i hnew
        cases hlook
        have := dormant_cons_add_le edges .visiting hin hnew
        simp only [potential, work, total_cons]
        omega
    · cases hlook
      exact Nat.le_refl _
  unfold step at h
  split at h
  · rename_i node outer hframes
    cases h
    have := dormant_cons_le producers edges s.marks node.components .visited
    simp only [potential, work, hframes, total_cons]
    omega
  · rename_i node p pending outer hframes
    refine Nat.lt_of_le_of_lt (looked h) ?_
    simp only [potential, work, hframes, total_cons, List.length_cons]
    omega
  · rename_i hframes
    split at h
    · cases h
    · rename_i p roots hroots
      refine Nat.lt_of_le_of_lt (looked h) ?_
      simp only [potential, work, hroots, List.length_cons]
      omega

/-- Go on to the end: the closed walk that was met first, if any. -/
def run (producers : Producers) (edges : List Edge) (s : Search) : Option (List Path) :=
  match _h : s.step producers edges with
  | .circle walk => some walk
  | .done => none
  | .going next => run producers edges next
termination_by s.potential producers edges
decreasing_by exact potential_step_lt _h

end Search

/-- The search before its first step: every output is still to be entered, in order. -/
def start (edges : List Edge) : Search := ⟨edges.flatMap Edge.outputs, [], []⟩

/-- The first circle of dependencies, least path first. -/
def find? (producers : Producers) (edges : List Edge) : Option (List Path) :=
  ((start edges).run producers edges).map canonical

end Circularity

end BuildPlan
