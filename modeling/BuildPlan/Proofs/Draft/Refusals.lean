import BuildPlan.Proofs.Draft.Finishing

/-!
# Refused declarations

Declarations are submitted one after the other, and each of them is answered. A refused one might as well
not have been submitted: what comes after it is answered in the same way, and the draft is finished in the
same way. This matters most for edges. An edge with many outputs may be refused for the last of them,
and then none of the others may count as produced.

* `Draft.transcript` — declarations with their answers; `Draft.unrefused` drops the refused ones.
* `transcript_accepted` — without the refused declarations, the others are answered as before.
* `submitAll_accepted` — and the draft is the same, its index included.
* `Graph.Refuses` — why an edge is refused after the declarations of a graph.
* **`refused_leave_no_trace`** — all this together, for every sequence of declarations.
-/

namespace BuildPlan

namespace Graph

/-- The path is an output already, or it stands among some others. -/
def Clashes (g : Graph) (before : List Path) (p : Path) : Prop :=
  g.Produced p ∨ ∃ q ∈ before, q.Same p

/-- The first path that clashes with the outputs there are or with those that stand before it. -/
def FirstClash (g : Graph) (outputs : List Path) (p : Path) : Prop :=
  ∃ before after, outputs = before ++ p :: after ∧ g.Clashes before p ∧
    ∀ earlier q later, before = earlier ++ q :: later → ¬ g.Clashes earlier q

/-- Why an edge is refused. A fault counts only if those above it are not there. -/
inductive Refuses (g : Graph) (e : Edge) : PlanError → Prop
  /-- The edge makes nothing. -/
  | emptyOutputs : e.outputs = [] → g.Refuses e (.emptyOutputs e.rule)
  /-- Its rule is not declared. -/
  | unknownRule {first : Path} {more : List Path} : e.outputs = first :: more →
      (∀ r ∈ g.rules, r.name ≠ e.rule) → g.Refuses e (.unknownRule e.rule first)
  /-- An output clashes. -/
  | duplicateOutput {p : Path} : (∃ r ∈ g.rules, r.name = e.rule) → g.FirstClash e.outputs p →
      g.Refuses e (.duplicateOutput p)

variable {g : Graph} {e : Edge} {fault : PlanError}

theorem rule?_eq_none_iff {name : String} :
    g.rule? name = none ↔ ∀ r ∈ g.rules, r.name ≠ name := by
  rw [rule?, List.find?_eq_none]
  simp only [decide_eq_true_eq, ne_eq]

/-! The three faults shut each other out, in this order. -/

theorem refuses_iff_of_nil (h : e.outputs = []) :
    g.Refuses e fault ↔ fault = .emptyOutputs e.rule := by
  constructor
  · intro hrefuses
    cases hrefuses with
    | emptyOutputs => rfl
    | unknownRule hcons => simp [h] at hcons
    | duplicateOutput _ hclash =>
      obtain ⟨before, after, hsplit, -, -⟩ := hclash
      simp [h] at hsplit
  · rintro rfl
    exact .emptyOutputs h

theorem refuses_iff_of_unknown {first : Path} {more : List Path} (h : e.outputs = first :: more)
    (hrule : g.rule? e.rule = none) : g.Refuses e fault ↔ fault = .unknownRule e.rule first := by
  have hunknown := rule?_eq_none_iff.1 hrule
  constructor
  · intro hrefuses
    cases hrefuses with
    | emptyOutputs hnil => simp [h] at hnil
    | unknownRule hcons =>
      rw [h] at hcons
      cases hcons
      rfl
    | duplicateOutput hknown =>
      obtain ⟨r, hr, hname⟩ := hknown
      exact absurd hname (hunknown r hr)
  · rintro rfl
    exact .unknownRule h hunknown

theorem refuses_iff_of_known {r : Rule} (h : e.outputs ≠ []) (hrule : g.rule? e.rule = some r) :
    g.Refuses e fault ↔ ∃ p, g.FirstClash e.outputs p ∧ fault = .duplicateOutput p := by
  have hknown : ∃ r ∈ g.rules, r.name = e.rule :=
    ⟨r, List.mem_of_find?_eq_some hrule, by simpa using List.find?_some hrule⟩
  constructor
  · intro hrefuses
    cases hrefuses with
    | emptyOutputs hnil => exact absurd hnil h
    | unknownRule _ hunknown =>
      obtain ⟨s, hs, hname⟩ := hknown
      exact absurd hname (hunknown s hs)
    | duplicateOutput _ hclash => exact ⟨_, hclash, rfl⟩
  · rintro ⟨p, hclash, rfl⟩
    exact .duplicateOutput hknown hclash

end Graph

namespace Draft

/-! ### Answers -/

/-- Declarations that are submitted one after the other, each with its answer. -/
def transcript (d : Draft) : List Declaration → List (Declaration × Except PlanError Unit)
  | [] => []
  | x :: rest => (x, d.answer x) :: (d.submit x).transcript rest

/-- The transcript without the declarations that were refused. -/
def unrefused (d : Draft) (xs : List Declaration) : List (Declaration × Except PlanError Unit) :=
  (d.transcript xs).filter fun call => call.2.isOk

variable {d : Draft} {x : Declaration} {fault : PlanError}

theorem unrefused_cons_of_ok (h : d.answer x = .ok ()) (rest : List Declaration) :
    d.unrefused (x :: rest) = (x, .ok ()) :: (d.submit x).unrefused rest := by
  rw [unrefused, transcript, h]
  rfl

theorem unrefused_cons_of_error (h : d.answer x = .error fault) (rest : List Declaration) :
    d.unrefused (x :: rest) = d.unrefused rest := by
  rw [unrefused, transcript, h, submit_of_error h]
  rfl

/-- The accepted declarations are those that were not refused. -/
theorem accepted_eq_map_unrefused (d : Draft) (xs : List Declaration) :
    d.accepted xs = (d.unrefused xs).map Prod.fst := by
  induction xs generalizing d with
  | nil => rfl
  | cons x rest ih =>
    cases hx : d.answer x with
    | ok => rw [accepted_cons_of_ok hx, unrefused_cons_of_ok hx, List.map_cons, ih]
    | error fault => rw [accepted_cons_of_error hx, unrefused_cons_of_error hx, ih]

/-- **Without the refused declarations, the others are answered as before.** -/
theorem transcript_accepted (d : Draft) (xs : List Declaration) :
    d.transcript (d.accepted xs) = d.unrefused xs := by
  induction xs generalizing d with
  | nil => rfl
  | cons x rest ih =>
    cases hx : d.answer x with
    | ok => rw [accepted_cons_of_ok hx, unrefused_cons_of_ok hx, transcript, hx, ih]
    | error fault => rw [accepted_cons_of_error hx, unrefused_cons_of_error hx, ih]

/-- **Without the refused declarations, the draft is the same.** -/
theorem submitAll_accepted (d : Draft) (xs : List Declaration) :
    d.submitAll (d.accepted xs) = d.submitAll xs := by
  induction xs generalizing d with
  | nil => rfl
  | cons x rest ih =>
    rw [submitAll_cons]
    cases hx : d.answer x with
    | ok => rw [accepted_cons_of_ok hx, submitAll_cons, ih]
    | error fault => rw [accepted_cons_of_error hx, submit_of_error hx, ih]

/-! ### Why an edge is refused -/

/-- The first element with a property that may look at what stands before it: it is the head, or the head
does not have the property and the element is the first behind it. -/
theorem exists_first_cons_iff {α : Type} {P : List α → α → Prop} {x p : α} {xs : List α} :
    (∃ before after, x :: xs = before ++ p :: after ∧ P before p ∧
        ∀ earlier q later, before = earlier ++ q :: later → ¬ P earlier q) ↔
      x = p ∧ P [] x ∨
        ¬ P [] x ∧ ∃ before after, xs = before ++ p :: after ∧ P (x :: before) p ∧
          ∀ earlier q later, before = earlier ++ q :: later → ¬ P (x :: earlier) q := by
  constructor
  · rintro ⟨before, after, hsplit, hp, hbefore⟩
    cases before with
    | nil =>
      cases hsplit
      exact .inl ⟨rfl, hp⟩
    | cons y before =>
      cases hsplit
      refine .inr ⟨hbefore [] x before rfl, before, after, rfl, hp, ?_⟩
      intro earlier q later hearlier
      exact hbefore (x :: earlier) q later (by rw [hearlier]; rfl)
  · rintro (⟨rfl, hx⟩ | ⟨hx, before, after, rfl, hp, hbefore⟩)
    · exact ⟨[], xs, rfl, hx, by simp⟩
    · refine ⟨x :: before, after, rfl, hp, ?_⟩
      intro earlier q later hearlier
      cases earlier with
      | nil =>
        cases hearlier
        exact hx
      | cons y earlier =>
        cases hearlier
        exact hbefore earlier q later rfl

/-- The first output that is taken: it is produced or was looked at before, and none before it is. -/
theorem taken?_eq_some_iff {producers : Producers} {seen outputs : List Path} {p : Path} :
    taken? producers seen outputs = some p ↔
      ∃ before after, outputs = before ++ p :: after ∧
        (producers.contains p || p.isAmong (before ++ seen)) = true ∧
        ∀ earlier q later, before = earlier ++ q :: later →
          ¬ (producers.contains q || q.isAmong (earlier ++ seen)) = true := by
  induction outputs generalizing seen with
  | nil => simp [taken?]
  | cons first rest ih =>
    -- an output that has been looked at may stand anywhere among the others
    have hmove : ∀ (q : Path) before, q.isAmong (before ++ first :: seen) =
        q.isAmong (first :: before ++ seen) := by
      intro q before
      simp only [Path.isAmong, List.any_append, List.any_cons, Bool.or_left_comm, List.cons_append]
    rw [taken?, exists_first_cons_iff
      (P := fun before q => (producers.contains q || q.isAmong (before ++ seen)) = true)]
    by_cases hfirst : (producers.contains first || first.isAmong seen) = true
    · rw [if_pos hfirst, List.nil_append, and_iff_left hfirst, or_iff_left (not_and_of_not_left _
        (not_not_intro hfirst)), Option.some_inj]
    · rw [if_neg hfirst, List.nil_append, or_iff_right (not_and_of_not_right _ hfirst),
        and_iff_right hfirst, ih]
      simp only [hmove]

namespace Consistent

variable {d : Draft}

/-- The index knows the outputs there are, so the first taken output is the first that clashes. -/
theorem taken?_eq_some_iff_firstClash (h : d.Consistent) {outputs : List Path} {p : Path} :
    taken? d.producers [] outputs = some p ↔ d.graph.FirstClash outputs p := by
  have hclash : ∀ before q, (d.producers.contains q || q.isAmong (before ++ [])) = true ↔
      d.graph.Clashes before q := by
    intro before q
    rw [Bool.or_eq_true, h.contains_iff_produced, List.append_nil, Path.isAmong_iff]
    rfl
  rw [taken?_eq_some_iff]
  simp only [hclash]
  rfl

/-- **An edge is refused exactly for the reasons that the graph has against it.** -/
theorem answer_edge_eq_error_iff (h : d.Consistent) {e : Edge} {fault : PlanError} :
    d.answer (.edge e) = .error fault ↔ d.graph.Refuses e fault := by
  rw [answer_eq_error_iff, fault?]
  cases houtputs : e.outputs with
  | nil =>
    rw [Graph.refuses_iff_of_nil houtputs]
    simp [eq_comm]
  | cons first more =>
    cases hrule : d.graph.rule? e.rule with
    | none =>
      rw [Graph.refuses_iff_of_unknown houtputs hrule]
      simp [eq_comm]
    | some r =>
      rw [Graph.refuses_iff_of_known (by simp [houtputs]) hrule, houtputs]
      simp only [← h.taken?_eq_some_iff_firstClash]
      cases taken? d.producers [] (first :: more) with
      | none => simp
      | some p => simp [eq_comm]

end Consistent

/-- **Refused declarations leave no trace.** A declaration that is refused leaves the draft as it was, its
index included. So without the refused ones, all others are answered as before, and the draft and what
becomes of it are the same. An edge is refused for having no outputs, or else for a rule that is not
declared at that moment, or else for the first output that an accepted edge makes or that stands in the
edge twice. -/
theorem refused_leave_no_trace (xs : List Declaration) :
    (∀ x fault, (submitAll {} xs).answer x = .error fault →
      (submitAll {} xs).submit x = submitAll {} xs) ∧
      accepted {} xs = (unrefused {} xs).map Prod.fst ∧
      transcript {} (accepted {} xs) = unrefused {} xs ∧
      submitAll {} (accepted {} xs) = submitAll {} xs ∧
      (submitAll {} (accepted {} xs)).finish = (submitAll {} xs).finish ∧
      ∀ e fault, (submitAll {} xs).answer (.edge e) = .error fault ↔
        (Graph.ofAccepted xs).Refuses e fault := by
  have hdraft := submitAll_accepted {} xs
  refine ⟨fun x fault h => submit_of_error h, accepted_eq_map_unrefused {} xs,
    transcript_accepted {} xs, hdraft, by rw [hdraft], ?_⟩
  intro e fault
  have hgraph : (submitAll {} xs).graph = Graph.ofAccepted xs := graph_submitAll xs
  rw [(consistent_submitAll xs).answer_edge_eq_error_iff, hgraph]

-- the second edge is refused for its last output, and its first can still be made by the third
example :
    ((transcript {}
      [.rule { name := "cp", command := ⟨[.literal "cp"]⟩ },
       .edge { rule := "cp", outputs := [⟨"b"⟩], inputs := [] },
       .edge { rule := "cp", outputs := [⟨"a"⟩, ⟨"./b"⟩, ⟨"b//"⟩], inputs := [] },
       .edge { rule := "cp", outputs := [⟨"a"⟩], inputs := [] }]).map fun call => call.2.isOk) =
      [true, true, false, true] := by
  decide +kernel

end Draft

end BuildPlan
