import BuildPlan.Proofs.Graph.Schedule

/-!
# When a draft can be finished

Finishing checks the draft as a whole. This file says what the three checks amount to, in terms of
the declarations that were accepted, and which error names which fault.

* `Rule.Mentions`, `Graph.Bound`, `Graph.AllBound` — every variable that a rule mentions in its
  command, its description or its dependency file is built in or declared.
* `Graph.Produced`, `Graph.AllProduced` — every default target is an output of some edge.
* `Graph.FirstUnbound`, `Graph.FirstUnproduced` — the first offence against either.
* `Graph.ofAccepted` — the graph that the accepted declarations of a sequence describe.
* **`finish_submitAll`** — a sequence of declarations can be finished exactly if all variables are
  bound, all default targets are produced and the edges have a schedule; then the graph is the one
  that the accepted declarations describe, and otherwise the error is that of the first check to fail.
-/

namespace BuildPlan

/-- The rule mentions the variable in its command, its description or its dependency file. -/
def Rule.Mentions (r : Rule) (name : String) : Prop :=
  ∃ t, (t = r.command ∨ r.description = some t ∨ r.depfile = some t) ∧
    Segment.variable name ∈ t.segments

/-- The placeholders of a rule are the variables it mentions. -/
theorem Rule.mem_placeholders_iff {r : Rule} {name : String} :
    name ∈ r.placeholders ↔ r.Mentions name := by
  have hsegment : ∀ t : Template, name ∈ t.placeholders ↔ Segment.variable name ∈ t.segments := by
    intro t
    rw [Template.placeholders, List.mem_filterMap]
    constructor
    · rintro ⟨segment, hmem, hname⟩
      cases segment with
      | literal text => cases hname
      | «variable» other =>
        cases hname
        exact hmem
    · intro hmem
      exact ⟨_, hmem, rfl⟩
  rw [Rule.placeholders, List.mem_flatMap]
  constructor
  · rintro ⟨t, ht, hname⟩
    refine ⟨t, ?_, (hsegment t).1 hname⟩
    simpa [Rule.templates] using ht
  · rintro ⟨t, ht, hname⟩
    refine ⟨t, ?_, (hsegment t).2 hname⟩
    simpa [Rule.templates] using ht

namespace Graph

/-- The variable is built in or declared. -/
def Bound (g : Graph) (name : String) : Prop :=
  name = "in" ∨ name = "out" ∨ name = "in_newline" ∨ ∃ v ∈ g.globals, v.name = name

/-- Every variable that a rule mentions is bound. -/
def AllBound (g : Graph) : Prop := ∀ r ∈ g.rules, ∀ name, r.Mentions name → g.Bound name

/-- Some edge lists the path among its outputs, in some spelling. -/
def Produced (g : Graph) (p : Path) : Prop := ∃ e ∈ g.edges, ∃ q ∈ e.outputs, q.Same p

/-- Every default target is produced. -/
def AllProduced (g : Graph) : Prop := ∀ target ∈ g.defaults, g.Produced target

/-- The first rule that mentions an unbound variable, and the first such variable in it: the command
comes before the description and that before the dependency file. -/
def FirstUnbound (g : Graph) (r : Rule) (name : String) : Prop :=
  ∃ before after earlier later,
    g.rules = before ++ r :: after ∧
    (∀ s ∈ before, ∀ other, s.Mentions other → g.Bound other) ∧
    r.placeholders = earlier ++ name :: later ∧
    (∀ other ∈ earlier, g.Bound other) ∧
    ¬ g.Bound name

/-- The first default target that is not produced. -/
def FirstUnproduced (g : Graph) (target : Path) : Prop :=
  ∃ before after,
    g.defaults = before ++ target :: after ∧ (∀ other ∈ before, g.Produced other) ∧
    ¬ g.Produced target

/-- The graph that the accepted declarations of a sequence describe. -/
def ofAccepted (xs : List Declaration) : Graph := ofDeclarations (Draft.accepted {} xs)

theorem binds_iff {g : Graph} {name : String} : g.binds name = true ↔ g.Bound name := by
  rw [binds, Bool.or_eq_true, List.contains_iff_mem, declares, List.any_eq_true]
  simp [builtinVariables, Bound, or_assoc]

theorem binds_eq_false_iff {g : Graph} {name : String} : g.binds name = false ↔ ¬ g.Bound name := by
  rw [← binds_iff, Bool.not_eq_true]

end Graph

namespace Draft

/-- The first check passes exactly if every mentioned variable is bound. -/
theorem unbound?_eq_none_iff {g : Graph} : unbound? g = none ↔ g.AllBound := by
  rw [unbound?, List.findSome?_eq_none_iff]
  refine forall₂_congr fun r _ => ?_
  rw [Option.map_eq_none_iff, List.find?_eq_none]
  simp only [Bool.not_eq_true', Bool.not_eq_false, Graph.binds_iff, Rule.mem_placeholders_iff]

/-- If the first check fails, it names the first offence. -/
theorem firstUnbound_of_unbound? {g : Graph} {rule name : String}
    (h : unbound? g = some (rule, name)) : ∃ r, r.name = rule ∧ g.FirstUnbound r name := by
  obtain ⟨before, r, after, hrules, hfirst, hbefore⟩ := List.findSome?_eq_some_iff.1 h
  obtain ⟨found, hfind, hpair⟩ := Option.map_eq_some_iff.1 hfirst
  obtain ⟨rfl, rfl⟩ := Prod.mk.inj hpair
  obtain ⟨hfound, earlier, later, hplaceholders, hearlier⟩ := List.find?_eq_some_iff_append.1 hfind
  refine ⟨r, rfl, before, after, earlier, later, hrules, ?_, hplaceholders, ?_, ?_⟩
  · intro s hs other hother
    have hnone := Option.map_eq_none_iff.1 (hbefore s hs)
    have hbound := List.find?_eq_none.1 hnone other (Rule.mem_placeholders_iff.2 hother)
    simpa [Graph.binds_iff] using hbound
  · intro other hother
    have hbound := hearlier other hother
    simpa [Graph.binds_iff] using hbound
  · rw [Bool.not_eq_true'] at hfound
    exact Graph.binds_eq_false_iff.1 hfound

namespace Consistent

variable {d : Draft}

theorem contains_iff_produced (h : d.Consistent) {p : Path} :
    d.producers.contains p = true ↔ d.graph.Produced p := by
  rw [h.contains_iff, Graph.Produced]
  simp only [Path.isAmong_iff]

theorem unproduced?_eq_none_iff (h : d.Consistent) :
    d.unproduced? = none ↔ d.graph.AllProduced := by
  rw [unproduced?, List.find?_eq_none]
  refine forall₂_congr fun target _ => ?_
  rw [← h.contains_iff_produced]
  simp

/-- If the second check fails, it names the first offence. -/
theorem firstUnproduced_of_unproduced? (h : d.Consistent) {target : Path}
    (hfind : d.unproduced? = some target) : d.graph.FirstUnproduced target := by
  obtain ⟨hfound, before, after, hdefaults, hbefore⟩ := List.find?_eq_some_iff_append.1 hfind
  refine ⟨before, after, hdefaults, ?_, ?_⟩
  · intro other hother
    rw [← h.contains_iff_produced]
    simpa using hbefore other hother
  · rw [← h.contains_iff_produced]
    simpa using hfound

/-- **Finishing succeeds exactly if all three checks pass.** -/
theorem finish_eq_ok_iff (h : d.Consistent) :
    (∃ g, d.finish = .ok g) ↔
      d.graph.AllBound ∧ d.graph.AllProduced ∧ Schedulable d.graph.edges := by
  rw [← unbound?_eq_none_iff, ← h.unproduced?_eq_none_iff, ← h.find?_eq_none_iff_schedulable]
  unfold finish
  cases unbound? d.graph with
  | some offence => simp
  | none =>
    cases d.unproduced? with
    | some target => simp
    | none => cases Circularity.find? d.producers d.graph.edges <;> simp

/-- An unbound variable is what a draft fails for first. -/
theorem finish_of_not_allBound (hnot : ¬ d.graph.AllBound) :
    ∃ r name, d.graph.FirstUnbound r name ∧
      d.finish = .error (.unboundPlaceholder r.name name) := by
  rw [← unbound?_eq_none_iff] at hnot
  obtain ⟨⟨rule, name⟩, hoffence⟩ := Option.ne_none_iff_exists'.1 hnot
  obtain ⟨r, rfl, hfirst⟩ := firstUnbound_of_unbound? hoffence
  refine ⟨r, name, hfirst, ?_⟩
  rw [finish, hoffence]

/-- A default target that no edge produces comes next. -/
theorem finish_of_not_allProduced (h : d.Consistent) (hbound : d.graph.AllBound)
    (hnot : ¬ d.graph.AllProduced) :
    ∃ target, d.graph.FirstUnproduced target ∧ d.finish = .error (.unknownDefault target) := by
  rw [← h.unproduced?_eq_none_iff] at hnot
  obtain ⟨target, hoffence⟩ := Option.ne_none_iff_exists'.1 hnot
  refine ⟨target, h.firstUnproduced_of_unproduced? hoffence, ?_⟩
  rw [finish, unbound?_eq_none_iff.2 hbound, hoffence]

/-- A circle comes last. -/
theorem finish_of_not_schedulable (h : d.Consistent) (hbound : d.graph.AllBound)
    (hproduced : d.graph.AllProduced) (hnot : ¬ Schedulable d.graph.edges) :
    ∃ cycle, d.finish = .error (.circularDependency cycle) := by
  rw [← h.find?_eq_none_iff_schedulable] at hnot
  obtain ⟨cycle, hoffence⟩ := Option.ne_none_iff_exists'.1 hnot
  refine ⟨cycle, ?_⟩
  rw [finish, unbound?_eq_none_iff.2 hbound, h.unproduced?_eq_none_iff.2 hproduced, hoffence]

end Consistent

/-- **What becomes of a sequence of declarations.** It can be finished exactly if every mentioned
variable is bound, every default target is produced and the edges have a schedule. The graph is then
exactly what the accepted declarations describe, in order. Otherwise an unbound variable is reported
before an unproduced default target and that before a circle, and the offence named is the first of
its kind. -/
theorem finish_submitAll (xs : List Declaration) :
    ((∃ g, (submitAll {} xs).finish = .ok g) ↔
      (Graph.ofAccepted xs).AllBound ∧ (Graph.ofAccepted xs).AllProduced ∧
        Schedulable (Graph.ofAccepted xs).edges) ∧
      (∀ g, (submitAll {} xs).finish = .ok g → g = Graph.ofAccepted xs) ∧
      (¬ (Graph.ofAccepted xs).AllBound →
        ∃ r name, (Graph.ofAccepted xs).FirstUnbound r name ∧
          (submitAll {} xs).finish = .error (.unboundPlaceholder r.name name)) ∧
      ((Graph.ofAccepted xs).AllBound → ¬ (Graph.ofAccepted xs).AllProduced →
        ∃ target, (Graph.ofAccepted xs).FirstUnproduced target ∧
          (submitAll {} xs).finish = .error (.unknownDefault target)) ∧
      ((Graph.ofAccepted xs).AllBound → (Graph.ofAccepted xs).AllProduced →
        ¬ Schedulable (Graph.ofAccepted xs).edges →
          ∃ cycle, (submitAll {} xs).finish = .error (.circularDependency cycle)) := by
  have hd : (submitAll {} xs).Consistent := consistent_submitAll xs
  have hgraph : (submitAll {} xs).graph = Graph.ofAccepted xs := graph_submitAll xs
  rw [← hgraph]
  refine ⟨hd.finish_eq_ok_iff, fun g hg => eq_graph_of_finish hg, ?_, ?_, ?_⟩
  · exact Consistent.finish_of_not_allBound
  · exact hd.finish_of_not_allProduced
  · exact hd.finish_of_not_schedulable

end Draft

end BuildPlan
