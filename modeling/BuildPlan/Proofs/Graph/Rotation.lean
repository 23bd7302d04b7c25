import BuildPlan.Proofs.Graph.Search
import BuildPlan.Proofs.Graph.Turning
import Mathlib.Data.List.Rotate

/-!
# A circle is reported alike from wherever it is entered

The search may enter a circle at any of its paths, and the walk that it closes starts there. Two walks
around one circle are rotations of one another, once the path at the end is set aside that stands for the
first one. Turning takes all of them to the same report.

The walk may spell a path as an output here and as an input there. So rotations are compared twice: by
text, and by components alone.

* `ClosedWalk` — a walk that ends where it starts and meets no path twice before.
* `rotation_unique` — of the rotations of a list without repetitions, only one starts with a given element.
* `least_same` — rotations of the same paths have the same least path.
* `ClosedWalk.exists_canonical` — turned, a closed walk is a rotation of it from its least path on.
* **`canonical_closedWalk`** — what turning does to a closed walk and to all its rotations.
-/

namespace BuildPlan

namespace Path

/-- Distinct paths differ in their components. -/
theorem distinct_iff_nodup {ps : List Path} : Distinct ps ↔ (ps.map components).Nodup := by
  rw [List.Nodup, List.pairwise_map]
  rfl

/-- Of distinct paths, two that are the same are one. -/
theorem Distinct.eq_of_same {ps : List Path} (h : Distinct ps) {p q : Path} (hp : p ∈ ps) (hq : q ∈ ps)
    (hpq : p.Same q) : p = q :=
  List.inj_on_of_nodup_map (distinct_iff_nodup.1 h) hp hq hpq

/-- The order looks at components alone. -/
theorem before_congr {p p' q q' : Path} (hp : p.Same p') (hq : q.Same q') :
    p.Before q ↔ p'.Before q' := by
  rw [Before, sortKey_eq_iff.2 hp, sortKey_eq_iff.2 hq, ← Before]

end Path

namespace Circularity

/-- A walk that ends where it starts and meets no path twice before. -/
structure ClosedWalk (walk : List Path) : Prop where
  /-- The walk has at least two paths and ends where it starts. -/
  closed : ∃ p inner q, walk = p :: (inner ++ [q]) ∧ p.Same q
  /-- Up to its end, the walk meets no path twice. -/
  simple : Path.Distinct walk.dropLast

/-- **Only one rotation starts with a given element**, if no element comes twice. -/
theorem rotation_unique {α : Type} {a : α} {xs ys : List α} (hnodup : (a :: ys).Nodup)
    (h : (a :: xs).IsRotated (a :: ys)) : a :: xs = a :: ys := by
  obtain ⟨k, hk, hrotate⟩ := List.isRotated_iff_mod.1 h.symm
  rw [List.rotate_eq_drop_append_take hk] at hrotate
  have hsplit : (a :: ys).take k ++ (a :: ys).drop k = a :: ys := List.take_append_drop k (a :: ys)
  -- the list is cut in two pieces that change places, so the element is at the head of both
  cases hfront : (a :: ys).take k with
  | nil =>
    rw [hfront, List.append_nil] at hrotate
    rw [hfront, List.nil_append] at hsplit
    exact hrotate.symm.trans hsplit
  | cons b front =>
    cases hback : (a :: ys).drop k with
    | nil =>
      rw [hback, List.nil_append] at hrotate
      rw [hback, List.append_nil] at hsplit
      exact hrotate.symm.trans hsplit
    | cons c back =>
      rw [hback, hfront, List.cons_append] at hrotate
      rw [hback, hfront, List.cons_append] at hsplit
      obtain ⟨rfl, -⟩ := List.cons.inj hrotate
      obtain ⟨-, hrest⟩ := List.cons.inj hsplit
      rw [← hrest] at hnodup
      exact absurd (List.mem_append_right front List.mem_cons_self) (List.nodup_cons.1 hnodup).1

/-- **Rotations of the same paths have the same least path.** -/
theorem least_same {ps qs : List Path} {first first' : Path} (hfirst : first ∈ ps) (hfirst' : first' ∈ qs)
    (hleast : ∀ p ∈ ps, ¬ p.Before first) (hleast' : ∀ q ∈ qs, ¬ q.Before first')
    (hrotated : (qs.map Path.components).IsRotated (ps.map Path.components)) :
    first'.Same first := by
  obtain ⟨p, hp, hpfirst⟩ := List.mem_map.1 (hrotated.mem_iff.1 (List.mem_map_of_mem hfirst'))
  obtain ⟨q, hq, hqfirst⟩ := List.mem_map.1 (hrotated.mem_iff.2 (List.mem_map_of_mem hfirst))
  have hnot : ¬ first'.Before first :=
    mt (Path.before_congr hpfirst (Path.Same.refl first)).2 (hleast p hp)
  have hnot' : ¬ first.Before first' :=
    mt (Path.before_congr hqfirst (Path.Same.refl first')).2 (hleast' q hq)
  by_contra hsame
  exact hnot' (Path.before_of_not_before hnot hsame)

namespace ClosedWalk

variable {walk other : List Path}

/-- **A closed walk turned is a rotation of it**, from its least path on, with that path at its end once
more. -/
theorem exists_canonical (h : ClosedWalk walk) :
    ∃ first others, canonical walk = first :: (others ++ [first]) ∧
      (first :: others).IsRotated walk.dropLast ∧ ∀ p ∈ walk.dropLast, ¬ p.Before first := by
  obtain ⟨p, inner, q, rfl, -⟩ := h.closed
  obtain ⟨before, after, hsplit, hcanonical⟩ := canonical_eq p inner q
  have hdrop : (p :: (inner ++ [q])).dropLast = p :: inner := by
    rw [← List.cons_append, List.dropLast_concat]
  refine ⟨least p inner, after ++ before, hcanonical, ?_, ?_⟩
  · rw [hdrop, hsplit, ← List.cons_append]
    exact List.isRotated_append
  · rw [hdrop]
    exact not_before_least p inner

/-- The path at the end of a closed walk stands for the first one. -/
theorem exists_same (h : ClosedWalk walk) {p : Path} (hp : p ∈ walk) : ∃ q ∈ walk.dropLast, q.Same p := by
  obtain ⟨first, inner, last, rfl, hsame⟩ := h.closed
  rw [← List.cons_append] at hp ⊢
  rw [List.dropLast_concat]
  rcases List.mem_append.1 hp with hp | hp
  · exact ⟨p, hp, Path.Same.refl p⟩
  · rw [List.mem_singleton.1 hp]
    exact ⟨first, List.mem_cons_self, hsame⟩

/-- Rotations of one walk are turned into the same report, up to spelling. -/
theorem components_canonical (h : ClosedWalk walk) (h' : ClosedWalk other)
    (hrotated : (other.dropLast.map Path.components).IsRotated (walk.dropLast.map Path.components)) :
    (canonical other).map Path.components = (canonical walk).map Path.components := by
  obtain ⟨first, others, hcanonical, hturn, hleast⟩ := h.exists_canonical
  obtain ⟨first', others', hcanonical', hturn', hleast'⟩ := h'.exists_canonical
  have hsame : first'.components = first.components :=
    least_same (hturn.mem_iff.1 List.mem_cons_self) (hturn'.mem_iff.1 List.mem_cons_self) hleast hleast'
      hrotated
  have hall : ((first' :: others').map Path.components).IsRotated ((first :: others).map Path.components) :=
    ((hturn'.map _).trans hrotated).trans (hturn.map _).symm
  have hnodup : ((first :: others).map Path.components).Nodup :=
    (hturn.map _).nodup_iff.2 (Path.distinct_iff_nodup.1 h.simple)
  rw [List.map_cons, List.map_cons, hsame] at hall
  rw [List.map_cons] at hnodup
  have hrest := (List.cons.inj (rotation_unique hnodup hall)).2
  rw [hcanonical, hcanonical', List.map_cons, List.map_cons, List.map_append, List.map_append, hrest, hsame,
    List.map_singleton, List.map_singleton, hsame]

/-- Rotations of one walk are turned into the same report, text for text, if they spell its paths alike. -/
theorem canonical_eq_of_isRotated (h : ClosedWalk walk) (h' : ClosedWalk other)
    (hrotated : other.dropLast.IsRotated walk.dropLast) : canonical other = canonical walk := by
  obtain ⟨first, others, hcanonical, hturn, hleast⟩ := h.exists_canonical
  obtain ⟨first', others', hcanonical', hturn', hleast'⟩ := h'.exists_canonical
  have hall : (first' :: others').IsRotated (first :: others) := (hturn'.trans hrotated).trans hturn.symm
  have hmem : first' ∈ walk.dropLast := (hturn'.trans hrotated).mem_iff.1 List.mem_cons_self
  have hsame : first'.Same first :=
    least_same (hturn.mem_iff.1 List.mem_cons_self) (hturn'.mem_iff.1 List.mem_cons_self) hleast hleast'
      (hrotated.map _)
  have heq : first' = first := h.simple.eq_of_same hmem (hturn.mem_iff.1 List.mem_cons_self) hsame
  have hnodup : (first :: others).Nodup :=
    hturn.nodup_iff.2 (List.Nodup.of_map _ (Path.distinct_iff_nodup.1 h.simple))
  rw [heq] at hall
  rw [hcanonical, hcanonical', heq, (List.cons.inj (rotation_unique hnodup hall)).2]

end ClosedWalk

/-- **What turning does to a closed walk.** The result is a closed walk of the same length and a rotation
of the given one, and it starts and ends with a path of which all others are the same or come after it.
Every rotation of the walk is turned into the same result, text for text. So is every walk that goes round
in the same order but spells its paths in other ways, as far as components tell. -/
theorem canonical_closedWalk {walk : List Path} (h : ClosedWalk walk) :
    ClosedWalk (canonical walk) ∧
      (canonical walk).length = walk.length ∧
      (canonical walk).dropLast.IsRotated walk.dropLast ∧
      (∃ first ∈ walk, (canonical walk).head? = some first ∧ (canonical walk).getLast? = some first ∧
        ∀ p ∈ walk, first.Same p ∨ first.Before p) ∧
      (∀ other, ClosedWalk other → other.dropLast.IsRotated walk.dropLast →
        canonical other = canonical walk) ∧
      ∀ other, ClosedWalk other →
        (other.dropLast.map Path.components).IsRotated (walk.dropLast.map Path.components) →
        (canonical other).map Path.components = (canonical walk).map Path.components := by
  obtain ⟨first, others, hcanonical, hturn, hleast⟩ := h.exists_canonical
  have hdrop : (canonical walk).dropLast = first :: others := by
    rw [hcanonical, ← List.cons_append, List.dropLast_concat]
  refine ⟨⟨⟨first, others, first, hcanonical, Path.Same.refl first⟩, ?_⟩, length_canonical walk, ?_, ?_,
    fun other h' => h.canonical_eq_of_isRotated h', fun other h' => h.components_canonical h'⟩
  · rw [hdrop, Path.distinct_iff_nodup]
    exact (hturn.map _).nodup_iff.2 (Path.distinct_iff_nodup.1 h.simple)
  · rw [hdrop]
    exact hturn
  · refine ⟨first, List.dropLast_subset walk (hturn.mem_iff.1 List.mem_cons_self), ?_, ?_, ?_⟩
    · rw [hcanonical]
      rfl
    · rw [hcanonical, ← List.cons_append, List.getLast?_append_of_ne_nil _ (List.cons_ne_nil first [])]
      rfl
    · intro p hp
      obtain ⟨q, hq, hqp⟩ := h.exists_same hp
      rw [or_iff_not_imp_left]
      intro hne
      have hbefore : first.Before q :=
        Path.before_of_not_before (hleast q hq) fun hsame => hne (hsame.symm.trans hqp)
      exact (Path.before_congr (Path.Same.refl first) hqp).1 hbefore

/-- Three paths in a circle, the one at its ends spelled in two ways. -/
def roundabout : List Path := [⟨"c/x"⟩, ⟨"a"⟩, ⟨"b"⟩, ⟨"c//x"⟩]

theorem canonical_closedWalk_roundabout :
    ClosedWalk roundabout ∧ canonical roundabout = [⟨"a"⟩, ⟨"b"⟩, ⟨"c/x"⟩, ⟨"a"⟩] ∧
      (canonical roundabout).dropLast.IsRotated [⟨"c/x"⟩, ⟨"a"⟩, ⟨"b"⟩] ∧
      canonical [⟨"b"⟩, ⟨"c/x"⟩, ⟨"a"⟩, ⟨"b/."⟩] = canonical roundabout ∧
      (canonical [⟨"b"⟩, ⟨"c//x"⟩, ⟨"a"⟩, ⟨"b"⟩]).map Path.components =
        (canonical roundabout).map Path.components := by
  have hwalk : ClosedWalk roundabout :=
    ⟨⟨⟨"c/x"⟩, [⟨"a"⟩, ⟨"b"⟩], ⟨"c//x"⟩, rfl, by decide⟩, by rw [Path.distinct_iff_nodup]; decide⟩
  have hentered : ClosedWalk [⟨"b"⟩, ⟨"c/x"⟩, ⟨"a"⟩, ⟨"b/."⟩] :=
    ⟨⟨⟨"b"⟩, [⟨"c/x"⟩, ⟨"a"⟩], ⟨"b/."⟩, rfl, by decide⟩, by rw [Path.distinct_iff_nodup]; decide⟩
  have hspelled : ClosedWalk [⟨"b"⟩, ⟨"c//x"⟩, ⟨"a"⟩, ⟨"b"⟩] :=
    ⟨⟨⟨"b"⟩, [⟨"c//x"⟩, ⟨"a"⟩], ⟨"b"⟩, rfl, by decide⟩, by rw [Path.distinct_iff_nodup]; decide⟩
  obtain ⟨-, -, hrotated, -, htext, hcomponents⟩ := canonical_closedWalk hwalk
  exact ⟨hwalk, by decide, hrotated, htext _ hentered ⟨1, by decide⟩, hcomponents _ hspelled ⟨1, by decide⟩⟩

end Circularity

end BuildPlan
