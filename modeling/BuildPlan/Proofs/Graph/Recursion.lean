import BuildPlan.Proofs.Graph.Search
import BuildPlan.Proofs.Graph.Stepping

/-!
# The search as a recursion

To look at a path is to look at all that it waits for, one after the other, and each of those is looked at
in the same way. So the search can be told as a recursion, in which the chain is the way down and nothing
bounds how deep it goes. It follows the dependencies of a graph that may have circles, so the structure of
the graph is no reason for it to end. It ends because a path is marked before what it waits for is looked
at, and marks are never taken away.

* `Visits` — the recursion: looking at some paths in turn, with the marks before and after, the closed walk
  that ended it if one did, and the paths that were entered.
* `unmarked` — how many produced paths have no mark; `Visits.unmarked_le` says that every path entered uses
  up at least one of them, through all calls.
* `exists_visits`, `Visits.unique` — the recursion has an outcome from everywhere, and only one.
* `Visits.distinct` — no path is entered twice.
* `Search.StandsAt` — where a search stands; `Visits.exists_runs` — its steps from there are the calls of the
  recursion.
* **`recursion_ends`** — all this together, and that the search finds what the recursion finds.
-/

namespace BuildPlan

namespace Circularity

/-- Marks given to paths, newest first. -/
abbrev Marks := List (List Component × Mark)

/-- The walk that meeting a path again closes, given the chain. -/
def walkBack (chain : List Path) (p : Path) : List Path :=
  match chain.dropWhile (fun q => !decide (q.Same p)) with
  | [] => chain ++ [p]
  | walk => walk ++ [p]

theorem Search.closing_eq (s : Search) (p : Path) : s.closing p = walkBack s.chain p := rfl

/-- **The recursion.** Under a chain of paths and with some marks given, the paths of a list are looked at
one after the other. This comes to a closed walk or to none, to the marks given by then, and to the list of
the paths entered on the way, each of which had all its dependencies looked at, or those up to the one that
closed the walk. -/
inductive Visits (producers : Producers) (edges : List Edge) :
    List Path → Marks → List Path → Option (List Path) → Marks → List Path → Prop
  /-- Nothing is left to look at. -/
  | nil {chain : List Path} {marks : Marks} : Visits producers edges chain marks [] none marks []
  /-- A path that no edge produces is passed over. -/
  | source {chain ps walked : List Path} {marks after : Marks} {p : Path} {found : Option (List Path)}
      (made : producers.contains p = false)
      (rest : Visits producers edges chain marks ps found after walked) :
      Visits producers edges chain marks (p :: ps) found after walked
  /-- So is a visited path. -/
  | visited {chain ps walked : List Path} {marks after : Marks} {p : Path} {found : Option (List Path)}
      (made : producers.contains p = true) (mark : marks.lookup p.components = some .visited)
      (rest : Visits producers edges chain marks ps found after walked) :
      Visits producers edges chain marks (p :: ps) found after walked
  /-- A path in the middle of its visit closes a walk, and nothing else is looked at. -/
  | met {chain ps : List Path} {marks : Marks} {p : Path} (made : producers.contains p = true)
      (mark : marks.lookup p.components = some .visiting) :
      Visits producers edges chain marks (p :: ps) (some (walkBack chain p)) marks []
  /-- Any other path is entered, and further down a walk is closed. -/
  | stopped {chain ps inner walk : List Path} {marks after : Marks} {p : Path}
      (made : producers.contains p = true) (mark : marks.lookup p.components = none)
      (inside : Visits producers edges (chain ++ [p]) ((p.components, .visiting) :: marks)
        (producers.needs edges p) (some walk) after inner) :
      Visits producers edges chain marks (p :: ps) (some walk) after (p :: inner)
  /-- Or it is entered and left again, and the paths after it are looked at. -/
  | left {chain ps inner walked : List Path} {marks between after : Marks} {p : Path}
      {found : Option (List Path)} (made : producers.contains p = true)
      (mark : marks.lookup p.components = none)
      (inside : Visits producers edges (chain ++ [p]) ((p.components, .visiting) :: marks)
        (producers.needs edges p) none between inner)
      (rest : Visits producers edges chain ((p.components, .visited) :: between) ps found after walked) :
      Visits producers edges chain marks (p :: ps) found after (p :: (inner ++ walked))

variable {producers : Producers} {edges : List Edge} {chain ps walked : List Path} {marks after : Marks}
  {found : Option (List Path)} {p : Path}

/-! ### Why the recursion ends -/

theorem lookup_cons_eq_none_iff {key other : List Component} {m : Mark} :
    List.lookup other ((key, m) :: marks) = none ↔ other ≠ key ∧ marks.lookup other = none := by
  by_cases h : other = key
  · simp [h]
  · rw [List.lookup_cons, beq_eq_false_iff_ne.2 h]
    simp [h]

/-- The number of indexed paths that have no mark. -/
def unmarked (producers : Producers) (marks : Marks) : Nat :=
  producers.countP fun entry => (marks.lookup entry.1).isNone

/-- A mark more leaves no more paths without one. -/
theorem unmarked_cons_le (producers : Producers) (marks : Marks) (key : List Component) (m : Mark) :
    unmarked producers ((key, m) :: marks) ≤ unmarked producers marks := by
  refine List.countP_mono_left fun entry _ hnone => ?_
  rw [Option.isNone_iff_eq_none] at hnone ⊢
  exact (lookup_cons_eq_none_iff.1 hnone).2

/-- The first mark on a produced path leaves fewer. -/
theorem unmarked_cons_lt (hin : producers.contains p = true) (hnew : marks.lookup p.components = none)
    (m : Mark) : unmarked producers ((p.components, m) :: marks) < unmarked producers marks := by
  obtain ⟨place, hplace⟩ := Option.isSome_iff_exists.1 hin
  obtain ⟨before, later, hsplit, -⟩ := List.lookup_eq_some_iff.1 hplace
  have hbefore := unmarked_cons_le before marks p.components m
  have hlater := unmarked_cons_le later marks p.components m
  unfold unmarked at hbefore hlater ⊢
  rw [hsplit, List.countP_append, List.countP_append, List.countP_cons_of_neg (by simp),
    List.countP_cons_of_pos (by simp [hnew])]
  omega

/-- **Every path entered uses up a path without a mark**, and what a call leaves to the calls after it is no
more than it found. -/
theorem Visits.unmarked_le (h : Visits producers edges chain marks ps found after walked) :
    walked.length + unmarked producers after ≤ unmarked producers marks := by
  induction h with
  | nil => simp
  | source _ _ ih => exact ih
  | visited _ _ _ ih => exact ih
  | met => simp
  | stopped made mark _ ih =>
    have hless := unmarked_cons_lt made mark .visiting
    rw [List.length_cons]
    omega
  | @left _ _ _ _ _ between _ p _ made mark _ _ ihinside ihrest =>
    have hless := unmarked_cons_lt made mark .visiting
    have hmore := unmarked_cons_le producers between p.components .visited
    rw [List.length_cons, List.length_append]
    omega

/-- **The recursion has an outcome**, from every chain and with any marks. The induction is on the number of
paths without a mark, for the calls further down, and on the list of paths, for the calls after one
another. -/
theorem exists_visits (producers : Producers) (edges : List Edge) (chain : List Path) (marks : Marks)
    (ps : List Path) : ∃ found after walked, Visits producers edges chain marks ps found after walked := by
  have hbound : ∀ n chain marks ps, unmarked producers marks ≤ n →
      ∃ found after walked, Visits producers edges chain marks ps found after walked := by
    intro n
    induction n using Nat.strong_induction_on with
    | _ n deeper =>
      intro chain marks ps
      induction ps generalizing marks with
      | nil => exact fun _ => ⟨_, _, _, .nil⟩
      | cons p ps onwards =>
        intro hn
        cases hin : producers.contains p with
        | false =>
          obtain ⟨found, after, walked, hrest⟩ := onwards marks hn
          exact ⟨found, after, walked, .source hin hrest⟩
        | true =>
          cases hmark : marks.lookup p.components with
          | some m =>
            cases m with
            | visiting => exact ⟨_, _, _, .met hin hmark⟩
            | visited =>
              obtain ⟨found, after, walked, hrest⟩ := onwards marks hn
              exact ⟨found, after, walked, .visited hin hmark hrest⟩
          | none =>
            have hless := unmarked_cons_lt hin hmark .visiting
            obtain ⟨found, between, inner, hinside⟩ := deeper _ (lt_of_lt_of_le hless hn) (chain ++ [p])
              ((p.components, .visiting) :: marks) (producers.needs edges p) le_rfl
            cases found with
            | some walk => exact ⟨_, _, _, .stopped hin hmark hinside⟩
            | none =>
              -- the calls further down have taken no mark away
              have hinner := hinside.unmarked_le
              have hmore := unmarked_cons_le producers between p.components .visited
              obtain ⟨found, after, walked, hrest⟩ :=
                onwards ((p.components, .visited) :: between) (by omega)
              exact ⟨found, after, _, .left hin hmark hinside hrest⟩
  exact hbound _ chain marks ps le_rfl

/-- The recursion has no choice. -/
theorem Visits.unique (h : Visits producers edges chain marks ps found after walked)
    {found' : Option (List Path)} {after' : Marks} {walked' : List Path}
    (h' : Visits producers edges chain marks ps found' after' walked') :
    found' = found ∧ after' = after ∧ walked' = walked := by
  induction h generalizing found' after' walked' with
  | nil =>
    cases h'
    exact ⟨rfl, rfl, rfl⟩
  | source made _ ih =>
    cases h' with
    | source _ rest => exact ih rest
    | visited made' | met made' | stopped made' | left made' => simp [made] at made'
  | visited made mark _ ih =>
    cases h' with
    | source made' => simp [made] at made'
    | visited _ _ rest => exact ih rest
    | met _ mark' | stopped _ mark' | left _ mark' => simp [mark] at mark'
  | met made mark =>
    cases h' with
    | source made' => simp [made] at made'
    | met => exact ⟨rfl, rfl, rfl⟩
    | visited _ mark' | stopped _ mark' | left _ mark' => simp [mark] at mark'
  | stopped made mark _ ih =>
    cases h' with
    | source made' => simp [made] at made'
    | visited _ mark' | met _ mark' => simp [mark] at mark'
    | stopped _ _ inside =>
      obtain ⟨hfound, rfl, rfl⟩ := ih inside
      exact ⟨hfound, rfl, rfl⟩
    | left _ _ inside => cases (ih inside).1
  | left made mark _ _ ihinside ihrest =>
    cases h' with
    | source made' => simp [made] at made'
    | visited _ mark' | met _ mark' => simp [mark] at mark'
    | stopped _ _ inside => cases (ihinside inside).1
    | left _ _ inside rest =>
      obtain ⟨-, rfl, rfl⟩ := ihinside inside
      obtain ⟨rfl, rfl, rfl⟩ := ihrest rest
      exact ⟨rfl, rfl, rfl⟩

/-! ### No path is entered twice -/

/-- No mark is taken away. -/
theorem Visits.marked_after (h : Visits producers edges chain marks ps found after walked)
    {key : List Component} (hkey : after.lookup key = none) : marks.lookup key = none := by
  induction h with
  | nil => exact hkey
  | source _ _ ih => exact ih hkey
  | visited _ _ _ ih => exact ih hkey
  | met => exact hkey
  | stopped _ _ _ ih => exact (lookup_cons_eq_none_iff.1 (ih hkey)).2
  | left _ _ _ _ ihinside ihrest =>
    have hbetween := (lookup_cons_eq_none_iff.1 (ihrest hkey)).2
    exact (lookup_cons_eq_none_iff.1 (ihinside hbetween)).2

/-- A path that is entered is produced, has no mark before, and has one after. -/
theorem Visits.of_mem (h : Visits producers edges chain marks ps found after walked) {q : Path}
    (hq : q ∈ walked) : producers.contains q = true ∧ marks.lookup q.components = none ∧
      after.lookup q.components ≠ none := by
  induction h with
  | nil => cases hq
  | source _ _ ih => exact ih hq
  | visited _ _ _ ih => exact ih hq
  | met => cases hq
  | stopped made mark inside ih =>
    rcases List.mem_cons.1 hq with rfl | hq
    · refine ⟨made, mark, fun hnone => ?_⟩
      exact (lookup_cons_eq_none_iff.1 (inside.marked_after hnone)).1 rfl
    · obtain ⟨hin, hnone, hsome⟩ := ih hq
      exact ⟨hin, (lookup_cons_eq_none_iff.1 hnone).2, hsome⟩
  | left made mark inside rest ihinside ihrest =>
    rcases List.mem_cons.1 hq with rfl | hq
    · refine ⟨made, mark, fun hnone => ?_⟩
      exact (lookup_cons_eq_none_iff.1 (rest.marked_after hnone)).1 rfl
    rcases List.mem_append.1 hq with hq | hq
    · obtain ⟨hin, hnone, hsome⟩ := ihinside hq
      refine ⟨hin, (lookup_cons_eq_none_iff.1 hnone).2, fun hlast => hsome ?_⟩
      exact (lookup_cons_eq_none_iff.1 (rest.marked_after hlast)).2
    · obtain ⟨hin, hnone, hsome⟩ := ihrest hq
      have hbetween := inside.marked_after (lookup_cons_eq_none_iff.1 hnone).2
      exact ⟨hin, (lookup_cons_eq_none_iff.1 hbetween).2, hsome⟩

/-- **No path is entered twice**, in any spelling. What one call enters is marked when the next begins. -/
theorem Visits.distinct (h : Visits producers edges chain marks ps found after walked) :
    Path.Distinct walked := by
  induction h with
  | nil => exact List.Pairwise.nil
  | source _ _ ih => exact ih
  | visited _ _ _ ih => exact ih
  | met => exact List.Pairwise.nil
  | stopped _ _ inside ih =>
    refine List.pairwise_cons.2 ⟨fun q hq hsame => ?_, ih⟩
    exact (lookup_cons_eq_none_iff.1 (inside.of_mem hq).2.1).1 hsame.symm
  | left _ _ inside rest ihinside ihrest =>
    refine List.pairwise_cons.2 ⟨fun q hq hsame => ?_, List.pairwise_append.2 ⟨ihinside, ihrest, ?_⟩⟩
    · rcases List.mem_append.1 hq with hq | hq
      · exact (lookup_cons_eq_none_iff.1 (inside.of_mem hq).2.1).1 hsame.symm
      · exact (lookup_cons_eq_none_iff.1 (rest.of_mem hq).2.1).1 hsame.symm
    · intro q hq r hr hsame
      have hfresh := (lookup_cons_eq_none_iff.1 (rest.of_mem hr).2.1).2
      rw [← show q.components = r.components from hsame] at hfresh
      exact (inside.of_mem hq).2.2 hfresh

/-! ### The steps of the search -/

namespace Search

/-- The search with other marks. -/
def withMarks (s : Search) (marks : Marks) : Search := { s with marks := marks }

theorem withAwaiting_withMarks (s : Search) (ps qs : List Path) (marks : Marks) :
    ((s.withAwaiting ps).withMarks marks).withAwaiting qs = (s.withMarks marks).withAwaiting qs := by
  obtain ⟨roots, frames, marks⟩ := s
  cases frames <;> rfl

/-- Where a search stands: its chain, its marks and the paths that come next. -/
structure StandsAt (s : Search) (chain : List Path) (marks : Marks) (next : List Path) : Prop where
  /-- The chain. -/
  chain_eq : s.chain = chain
  /-- The marks. -/
  marks_eq : s.marks = marks
  /-- What comes next. -/
  awaiting_eq : s.awaiting = next

namespace StandsAt

variable {s : Search}

theorem mark?_eq (h : s.StandsAt chain marks ps) (p : Path) : s.mark? p = marks.lookup p.components := by
  rw [mark?, h.marks_eq]

/-- Other paths may come next. -/
theorem withAwaiting (h : s.StandsAt chain marks ps) (next : List Path) :
    (s.withAwaiting next).StandsAt chain marks next where
  chain_eq := (s.chain_withAwaiting next).trans h.chain_eq
  marks_eq := (s.marks_withAwaiting next).trans h.marks_eq
  awaiting_eq := s.awaiting_withAwaiting next

theorem withMarks (h : s.StandsAt chain marks ps) (after : Marks) :
    (s.withMarks after).StandsAt chain after ps where
  chain_eq := h.chain_eq
  marks_eq := rfl
  awaiting_eq := h.awaiting_eq

/-- After a path has been entered, what it waits for comes next. -/
theorem entered (h : s.StandsAt chain marks ps) (p : Path) :
    (entered producers edges p s).StandsAt (chain ++ [p]) ((p.components, .visiting) :: marks)
      (producers.needs edges p) where
  chain_eq := by
    rw [Search.chain, Search.entered, List.map_cons, List.reverse_cons, ← Search.chain, h.chain_eq]
  marks_eq := by rw [Search.entered, h.marks_eq]
  awaiting_eq := rfl

/-- Nothing more comes later. -/
theorem append_nil (h : s.StandsAt chain marks ps) : s.StandsAt chain marks (ps ++ []) := by
  rwa [List.append_nil]

end StandsAt

end Search

/-- **The steps of the search are the calls of the recursion.** From a search that stands where the recursion
begins, with more paths to come later, steps lead through the paths entered. They end where the paths are
dealt with and the others come next, or where the next step closes the walk. -/
theorem Visits.exists_runs (h : Visits producers edges chain marks ps found after walked) {s : Search}
    {more : List Path} (hs : s.StandsAt chain marks (ps ++ more)) :
    ∃ t, s.Runs producers edges walked t ∧
      (found = none → t = (s.withMarks after).withAwaiting more) ∧
      ∀ walk, found = some walk → t.step producers edges = .circle walk := by
  induction h generalizing s more with
  | nil =>
    obtain ⟨-, rfl, hnext⟩ := hs
    exact ⟨s, .refl s, fun _ => (Search.withAwaiting_of_awaiting hnext).symm, by simp⟩
  | @source _ ps _ _ _ p _ made _ ih =>
    have hskip : s.Runs producers edges [] (s.withAwaiting (ps ++ more)) :=
      .single (Search.step_source hs.awaiting_eq made) (by simp)
    obtain ⟨t, hruns, hclear, hcircle⟩ := ih (hs.withAwaiting _)
    exact ⟨t, hskip.trans hruns, fun hnone => by rw [hclear hnone, Search.withAwaiting_withMarks], hcircle⟩
  | @visited _ ps _ _ _ p _ made mark _ ih =>
    have hskip : s.Runs producers edges [] (s.withAwaiting (ps ++ more)) :=
      .single (Search.step_visited hs.awaiting_eq made ((hs.mark?_eq p).trans mark)) (by simp)
    obtain ⟨t, hruns, hclear, hcircle⟩ := ih (hs.withAwaiting _)
    exact ⟨t, hskip.trans hruns, fun hnone => by rw [hclear hnone, Search.withAwaiting_withMarks], hcircle⟩
  | @met _ _ _ p made mark =>
    refine ⟨s, .refl s, by simp, ?_⟩
    rintro walk ⟨⟩
    rw [Search.step_met hs.awaiting_eq made ((hs.mark?_eq p).trans mark), Search.closing_eq, hs.chain_eq]
  | @stopped _ ps _ _ _ _ p made mark _ ih =>
    have henter : s.step producers edges =
        .going (Search.entered producers edges p (s.withAwaiting (ps ++ more))) :=
      Search.step_enter hs.awaiting_eq made ((hs.mark?_eq p).trans mark)
    obtain ⟨t, hruns, -, hcircle⟩ := ih (((hs.withAwaiting _).entered p).append_nil)
    refine ⟨t, ?_, by simp, hcircle⟩
    have hrun := Search.Runs.step henter hruns
    rwa [Search.entrant?_entered] at hrun
  | @left _ ps _ _ _ between _ p _ made mark _ _ ihinside ihrest =>
    have henter : s.step producers edges =
        .going (Search.entered producers edges p (s.withAwaiting (ps ++ more))) :=
      Search.step_enter hs.awaiting_eq made ((hs.mark?_eq p).trans mark)
    obtain ⟨t, hinner, hclear, -⟩ := ihinside (((hs.withAwaiting _).entered p).append_nil)
    -- the path just entered has nothing left to look at, so the next step leaves it
    have hleave : t.step producers edges = .going
        ((s.withAwaiting (ps ++ more)).withMarks ((p.components, .visited) :: between)) := by
      rw [hclear rfl]
      exact Search.step_leave rfl
    have hshorter : (s.withAwaiting (ps ++ more)).frames.length ≤ t.frames.length := by
      rw [hclear rfl]
      exact Nat.le_succ _
    obtain ⟨u, houter, hclear', hcircle⟩ := ihrest ((hs.withAwaiting _).withMarks _)
    refine ⟨u, ?_, ?_, hcircle⟩
    · have hrun := Search.Runs.step henter (hinner.trans ((Search.Runs.single hleave hshorter).trans houter))
      rwa [Search.entrant?_entered] at hrun
    · intro hnone
      rw [hclear' hnone]
      exact s.withAwaiting_withMarks _ _ _

/-- Steps do not change what a search finds in the end. -/
theorem Search.Runs.run_eq {s t : Search} (h : s.Runs producers edges walked t) :
    s.run producers edges = t.run producers edges := by
  induction h with
  | refl s => rfl
  | step first _ ih => rw [Search.run_eq, first, ← ih]

/-- **The search ends, and walks the dependencies of no path twice.** Nothing is asked of the graph, which may
have circles and edges that wait for themselves. From every chain and with any marks, the recursion comes to
an outcome, and only to one. The paths that it enters are produced and all different, so they are no more
than the index has. What the search over all outputs finds is what the recursion finds: its steps are the
calls of the recursion, and enter the same paths. -/
theorem recursion_ends (producers : Producers) (edges : List Edge) :
    (∀ chain marks ps, ∃ found after walked,
      Visits producers edges chain marks ps found after walked ∧
      (∀ found' after' walked', Visits producers edges chain marks ps found' after' walked' →
        found' = found ∧ after' = after ∧ walked' = walked) ∧
      Path.Distinct walked ∧ (∀ p ∈ walked, producers.contains p = true) ∧
      walked.length ≤ producers.length) ∧
    ∃ found after walked last,
      Visits producers edges [] [] (edges.flatMap Edge.outputs) found after walked ∧
      (start edges).Runs producers edges walked last ∧
      last.step producers edges = found.elim .done .circle ∧
      find? producers edges = found.map canonical := by
  constructor
  · intro chain marks ps
    obtain ⟨found, after, walked, hvisits⟩ := exists_visits producers edges chain marks ps
    refine ⟨found, after, walked, hvisits, fun _ _ _ h => hvisits.unique h, hvisits.distinct,
      fun p hp => (hvisits.of_mem hp).1, ?_⟩
    have hused := hvisits.unmarked_le
    have hall : unmarked producers marks ≤ producers.length := List.countP_le_length
    omega
  · obtain ⟨found, after, walked, hvisits⟩ :=
      exists_visits producers edges [] [] (edges.flatMap Edge.outputs)
    have hstart : (start edges).StandsAt [] [] (edges.flatMap Edge.outputs) := ⟨rfl, rfl, rfl⟩
    obtain ⟨last, hruns, hclear, hcircle⟩ := hvisits.exists_runs hstart.append_nil
    have hlast : last.step producers edges = found.elim .done .circle := by
      cases found with
      | none =>
        rw [hclear rfl]
        exact Search.step_done rfl rfl
      | some walk => exact hcircle walk rfl
    refine ⟨found, after, walked, last, hvisits, hruns, hlast, ?_⟩
    rw [find?, hruns.run_eq, Search.run_eq, hlast]
    cases found <;> rfl

end Circularity

end BuildPlan
