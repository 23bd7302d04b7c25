import BuildPlan.Graph.Circularity
import BuildPlan.Proofs.Draft.Declaring
import Mathlib.Data.Char
import Mathlib.Data.List.Chain
import Mathlib.Data.List.Lex
import Mathlib.Data.List.TakeWhile

/-!
# Turning a closed walk

A closed walk says the same wherever it starts, so it is turned until its least path comes first. The walk
is cut before its least path and the two pieces change places; the path at its end, which stood for the
first one, gives way to the new first path.

* `Path.Before` orders paths, as far as they are not the same (`before_trans`, `before_of_not_before`).
* `least_mem`, `not_before_least` — what the least path is.
* **`canonical_eq`** — a turned walk is the walk cut in two.
* `isChain_turn` — the two pieces still follow one another, across the seam too.
* **`exists_turned`** — a circle stays a circle when it is turned.
-/

namespace BuildPlan

namespace Path

variable {p q r : Path}

theorem before_trans (hpq : p.Before q) (hqr : q.Before r) : p.Before r := lt_trans hpq hqr

theorem not_before_self (p : Path) : ¬ p.Before p := lt_irrefl p.sortKey

/-- Of two paths that are not the same, one comes before the other. -/
theorem before_of_not_before (hpq : ¬ p.Before q) (hsame : ¬ p.Same q) : q.Before p := by
  have hne : q.sortKey ≠ p.sortKey := fun heq => hsame (sortKey_eq_iff.1 heq.symm)
  exact lt_of_le_of_ne (not_lt.1 hpq) hne

/-- If `q` comes no later than `p`, and `r` no later than `q`, then `r` comes no later than `p`. -/
theorem not_before_trans (hpq : ¬ p.Before q) (hqr : ¬ q.Before r) : ¬ p.Before r := by
  intro hpr
  exact not_lt_of_ge (le_trans (not_lt.1 hqr) (not_lt.1 hpq)) hpr

end Path

namespace Circularity

/-! ### The least path -/

theorem least_cons (p q : Path) (rest : List Path) :
    least p (q :: rest) = least (if q.Before p then q else p) rest := rfl

theorem least_mem (p : Path) (rest : List Path) : least p rest ∈ p :: rest := by
  induction rest generalizing p with
  | nil => exact List.mem_singleton_self p
  | cons q rest ih =>
    rw [least_cons]
    split
    · exact List.mem_cons_of_mem p (ih q)
    · rcases List.mem_cons.1 (ih p) with hp | hrest
      · rw [hp]
        exact List.mem_cons_self
      · exact List.mem_cons_of_mem p (List.mem_cons_of_mem q hrest)

theorem not_before_least (p : Path) (rest : List Path) :
    ∀ r ∈ p :: rest, ¬ r.Before (least p rest) := by
  induction rest generalizing p with
  | nil =>
    intro r hr
    rw [List.mem_singleton.1 hr]
    exact Path.not_before_self p
  | cons q rest ih =>
    rw [least_cons]
    intro r hr
    split
    · rename_i hqp
      rcases List.mem_cons.1 hr with rfl | hr
      · exact fun hr' => ih q q List.mem_cons_self (Path.before_trans hqp hr')
      · exact ih q r hr
    · rename_i hqp
      have hp := ih p p List.mem_cons_self
      rcases List.mem_cons.1 hr with rfl | hr
      · exact hp
      · rcases List.mem_cons.1 hr with rfl | hr
        · exact Path.not_before_trans hqp hp
        · exact ih p r (List.mem_cons_of_mem p hr)

/-- Where no path occurs twice, the least comes before all others. -/
theorem least_before {p : Path} {rest before after : List Path}
    (hdistinct : Path.Distinct (p :: rest)) (hsplit : p :: rest = before ++ least p rest :: after) :
    ∀ r ∈ after ++ before, (least p rest).Before r := by
  intro r hr
  have hleast := not_before_least p rest r
  rw [hsplit] at hdistinct hleast
  obtain ⟨-, hafter, hbefore⟩ := List.pairwise_append.1 hdistinct
  have hne : ¬ r.Same (least p rest) := by
    rcases List.mem_append.1 hr with hr | hr
    · exact fun hsame => List.rel_of_pairwise_cons hafter hr hsame.symm
    · exact hbefore r hr _ List.mem_cons_self
  refine Path.before_of_not_before (hleast ?_) hne
  rcases List.mem_append.1 hr with hr | hr
  · exact List.mem_append_right _ (List.mem_cons_of_mem _ hr)
  · exact List.mem_append_left _ hr

/-! ### The two pieces -/

/-- **A turned walk is the walk cut in two** before its least path, with the pieces in each other's place.
The path that stood at its end for the first one is gone, and the least path stands there instead. -/
theorem canonical_eq (p : Path) (inner : List Path) (q : Path) :
    ∃ before after, p :: inner = before ++ least p inner :: after ∧
      canonical (p :: (inner ++ [q])) =
        least p inner :: (after ++ before ++ [least p inner]) := by
  have hsplit := List.takeWhile_append_dropWhile (p := (· ≠ least p inner)) (l := p :: inner)
  cases hwalk : (p :: inner).dropWhile (· ≠ least p inner) with
  | nil =>
    have hall := List.dropWhile_eq_nil_iff.1 hwalk _ (least_mem p inner)
    simp at hall
  | cons first after =>
    have hhead := List.head?_dropWhile_not (· ≠ least p inner) (p :: inner)
    rw [hwalk] at hhead hsplit
    have hfirst : first = least p inner := by simpa using hhead
    subst hfirst
    refine ⟨_, after, hsplit.symm, ?_⟩
    have hdrop : (p :: (inner ++ [q])).dropLast = p :: inner := by
      rw [← List.cons_append, List.dropLast_concat]
    rw [canonical, hdrop]
    simp only [hwalk, List.cons_append]

/-- The pieces follow one another in their new places. Across the seam, the path at the end of the walk
gives way to the first one, which is the same. -/
theorem isChain_turn {R : Path → Path → Prop} (hR : ∀ a b c, R a b → b.Same c → R a c)
    {before after inner : List Path} {first p q : Path}
    (hsplit : p :: inner = before ++ first :: after) (hpq : p.Same q)
    (h : (p :: (inner ++ [q])).IsChain R) : (first :: (after ++ before ++ [first])).IsChain R := by
  have hwhole : (before ++ ((first :: after) ++ [q])).IsChain R := by
    rw [← List.append_assoc, ← hsplit]
    exact h
  -- the second piece now leads to `p`, where the first one starts, and no longer to `q`
  have hpiece : ((first :: after) ++ [p]).IsChain R := by
    have hright := hwhole.right_of_append
    rw [List.isChain_append] at hright ⊢
    obtain ⟨hchain, -, hlast⟩ := hright
    refine ⟨hchain, List.isChain_singleton p, ?_⟩
    intro last hmem next hnext
    rw [show next = p by simpa using Eq.symm hnext]
    exact hR last q p (hlast last hmem q rfl) hpq.symm
  -- the first piece may be empty, if the walk starts at its least path already
  obtain ⟨rest, hfront⟩ : ∃ rest, before ++ [first] = p :: rest := by
    cases before with
    | nil => exact ⟨[], by rw [(List.cons.inj hsplit).1, List.nil_append]⟩
    | cons a before => exact ⟨before ++ [first], by rw [(List.cons.inj hsplit).1, List.cons_append]⟩
  have hother : ([p] ++ rest).IsChain R := by
    rw [List.singleton_append, ← hfront]
    rw [List.cons_append, List.append_cons] at hwhole
    exact hwhole.left_of_append
  have hjoined := hpiece.append_overlap hother (List.cons_ne_nil p [])
  rw [List.append_assoc, List.singleton_append, ← hfront, List.cons_append] at hjoined
  rw [List.append_assoc]
  exact hjoined

/-- **A circle stays a circle when it is turned**, with its least path at both ends. The relation that its
paths follow one another by may not tell spellings apart. -/
theorem exists_turned {R : Path → Path → Prop} (hR : ∀ a b c, R a b → b.Same c → R a c)
    {inner : List Path} {p q : Path} (hpq : p.Same q) (hdistinct : Path.Distinct (p :: inner))
    (h : (p :: (inner ++ [q])).IsChain R) :
    ∃ first others, canonical (p :: (inner ++ [q])) = first :: (others ++ [first]) ∧
      (first :: (others ++ [first])).IsChain R ∧ Path.Distinct (first :: others) ∧
      ∀ r ∈ others, first.Before r := by
  obtain ⟨before, after, hsplit, hcanonical⟩ := canonical_eq p inner q
  have hperm : (least p inner :: (after ++ before)).Perm (p :: inner) := by
    rw [hsplit, ← List.cons_append]
    exact List.perm_append_comm
  exact ⟨least p inner, after ++ before, hcanonical, isChain_turn hR hsplit hpq h,
    (hperm.pairwise_iff fun hab hba => hab hba.symm).2 hdistinct, least_before hdistinct hsplit⟩

end Circularity

end BuildPlan
