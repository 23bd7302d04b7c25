import BuildPlan.Plan.Assembly
import BuildPlan.Plan.Regeneration
import BuildPlan.Proofs.Draft.Declaring
import Mathlib.Data.List.Induction
import Mathlib.Data.List.Nodup

/-!
# Drafts are consistent at every moment

A draft holds a list of edges and, next to it, an index of the paths that these edges produce. The
two are updated apart from each other, and paths are compared by their components throughout. This
file shows that they agree in every draft that can come about, whatever was accepted, refused or cut
short on the way.

* `Producers.ofEdges` — the index that belongs to a list of edges; `place?_ofEdges` says that looking
  a path up in it is scanning the edges.
* `Draft.Consistent` — what holds of a draft: names are declared once, values are single lines, edges
  have outputs and declared rules, no output is produced twice, the index is the one that belongs to
  the edges, and no default target stands twice.
* `Consistent.extend` — an admitted declaration keeps a draft consistent. Uniqueness of outputs and
  agreement of the index need each other here: a new output is known to be new only because the index
  is right, and the index stays a function only because the output is new.
* `Draft.Call` — the calls on a draft: single declarations, the declarations of a plan and those of
  the regeneration step, where the last two stop midway at a fault.
* `Graph.Finished` — a graph that a draft was finished with, after calls on an empty one.
* **`consistent_callAll`** — every draft that calls lead to is consistent.
-/

namespace BuildPlan

/-! ### The index that belongs to a list of edges -/

namespace Producers

/-- The index that belongs to a list of edges: every output with the place of its edge. -/
def ofEdges (edges : List Edge) : Producers :=
  edges.zipIdx.flatMap fun entry => entry.1.outputs.map fun p => (p.components, entry.2)

theorem ofEdges_append_singleton (edges : List Edge) (e : Edge) :
    ofEdges (edges ++ [e]) = (ofEdges edges).extend e.outputs edges.length := by
  simp [ofEdges, extend, List.zipIdx_append]

/-- The keys of the index are the outputs of the edges, in order. -/
theorem keys_ofEdges (edges : List Edge) :
    (ofEdges edges).map Prod.fst = (edges.flatMap Edge.outputs).map Path.components := by
  induction edges using List.reverseRecOn with
  | nil => rfl
  | append_singleton edges e ih =>
    rw [ofEdges_append_singleton, extend, List.map_append, ih, List.flatMap_append]
    simp [List.map_map, Function.comp_def]

/-- **Looking a path up in the index is scanning the edges** for the first that lists it. -/
theorem place?_ofEdges (edges : List Edge) (p : Path) :
    (ofEdges edges).place? p = edges.findIdx? fun e => p.isAmong e.outputs := by
  induction edges using List.reverseRecOn with
  | nil => rfl
  | append_singleton edges e ih =>
    rw [ofEdges_append_singleton, place?_extend, ih, List.findIdx?_append]
    congr 1
    cases h : p.isAmong e.outputs <;> simp [List.findIdx?_cons, h]

theorem contains_ofEdges (edges : List Edge) (p : Path) :
    (ofEdges edges).contains p = p.isAmong (edges.flatMap Edge.outputs) := by
  rw [contains, place?_ofEdges, List.findIdx?_isSome, Bool.eq_iff_iff, List.any_eq_true,
    Path.isAmong_iff]
  constructor
  · rintro ⟨e, he, hp⟩
    obtain ⟨q, hq, hqp⟩ := Path.isAmong_iff.1 hp
    exact ⟨q, List.mem_flatMap.2 ⟨e, he, hq⟩, hqp⟩
  · rintro ⟨q, hq, hqp⟩
    obtain ⟨e, he, hqe⟩ := List.mem_flatMap.1 hq
    exact ⟨e, he, Path.isAmong_iff.2 ⟨q, hqe, hqp⟩⟩

end Producers

/-! ### Edges that share no output -/

/-- Of edges without a common output, the ones at two places that list the same path are at one
place. -/
theorem place_unique {edges : List Edge} (h : Path.Distinct (edges.flatMap Edge.outputs))
    {i j : Nat} {e f : Edge} {p : Path} (hi : edges[i]? = some e) (hj : edges[j]? = some f)
    (hp : p.isAmong e.outputs = true) (hq : p.isAmong f.outputs = true) : i = j := by
  have apart : ∀ {i j : Nat} {e f : Edge}, edges[i]? = some e → edges[j]? = some f →
      p.isAmong e.outputs = true → p.isAmong f.outputs = true → ¬ i < j := by
    intro i j e f hi hj hp hq hlt
    obtain ⟨a, ha, hap⟩ := Path.isAmong_iff.1 hp
    obtain ⟨b, hb, hbp⟩ := Path.isAmong_iff.1 hq
    obtain ⟨hi', rfl⟩ := List.getElem?_eq_some_iff.1 hi
    obtain ⟨hj', rfl⟩ := List.getElem?_eq_some_iff.1 hj
    have hpairs := (List.pairwise_flatMap.1 h).2
    have hij := List.pairwise_iff_getElem.1 hpairs i j hi' hj' hlt
    exact hij a ha b hb (hap.trans hbp.symm)
  rcases Nat.lt_trichotomy i j with hlt | heq | hgt
  · exact absurd hlt (apart hi hj hp hq)
  · exact heq
  · exact absurd hgt (apart hj hi hq hp)

theorem nodup_of_distinct_outputs {edges : List Edge}
    (h : Path.Distinct (edges.flatMap Edge.outputs)) (hne : ∀ e ∈ edges, e.outputs ≠ []) :
    edges.Nodup := by
  have hpairs := (List.pairwise_flatMap.1 h).2
  refine List.Pairwise.imp_of_mem ?_ hpairs
  rintro e f he - hef rfl
  obtain ⟨p, rest, hcons⟩ := List.exists_cons_of_ne_nil (hne e he)
  have hp : p ∈ e.outputs := by rw [hcons]; exact List.mem_cons_self
  exact hef p hp p hp (Path.Same.refl p)

/-! ### Consistent drafts -/

namespace Draft

/-- What holds of a draft at every moment. -/
structure Consistent (d : Draft) : Prop where
  /-- No variable is declared twice. -/
  globals_nodup : (d.graph.globals.map Variable.name).Nodup
  /-- Every value is a single line. -/
  value_singleLine : ∀ v ∈ d.graph.globals, '\n' ∉ v.value.toList ∧ '\r' ∉ v.value.toList
  /-- No rule is declared twice. -/
  rules_nodup : (d.graph.rules.map Rule.name).Nodup
  /-- Every edge makes something. -/
  outputs_ne_nil : ∀ e ∈ d.graph.edges, e.outputs ≠ []
  /-- Every edge uses a declared rule. -/
  rule_declared : ∀ e ∈ d.graph.edges, ∃ r ∈ d.graph.rules, r.name = e.rule
  /-- No path is made twice, by one edge or by two. -/
  outputs_distinct : Path.Distinct d.graph.outputs
  /-- The index is the one that belongs to the edges. -/
  producers_eq : d.producers = Producers.ofEdges d.graph.edges
  /-- No default target stands twice. -/
  defaults_distinct : Path.Distinct d.graph.defaults

theorem consistent_empty : ({} : Draft).Consistent where
  globals_nodup := List.nodup_nil
  value_singleLine := by simp
  rules_nodup := List.nodup_nil
  outputs_ne_nil := by simp
  rule_declared := by simp
  outputs_distinct := List.Pairwise.nil
  producers_eq := rfl
  defaults_distinct := List.Pairwise.nil

/-- A value is no single line exactly if it holds a line feed or a carriage return. -/
theorem isMultiline_eq_false_iff {value : String} :
    isMultiline value = false ↔ '\n' ∉ value.toList ∧ '\r' ∉ value.toList := by
  rw [isMultiline, List.any_eq_false]
  constructor
  · intro h
    refine ⟨fun hn => ?_, fun hr => ?_⟩
    · exact absurd (h _ hn) (by decide)
    · exact absurd (h _ hr) (by decide)
  · rintro ⟨hn, hr⟩ c hc hbreak
    rw [Bool.or_eq_true, decide_eq_true_eq, decide_eq_true_eq] at hbreak
    rcases hbreak with rfl | rfl
    · exact hn hc
    · exact hr hc

namespace Consistent

variable {d : Draft}

theorem extend_variable (h : d.Consistent) {name value : String}
    (hx : d.Admits (.variable name value)) : (d.extend (.variable name value)).Consistent := by
  obtain ⟨hnew, hline⟩ := hx
  refine { h with globals_nodup := ?_, value_singleLine := ?_ }
  · show ((d.graph.globals ++ [Variable.mk name value]).map Variable.name).Nodup
    rw [List.map_append, List.nodup_append']
    refine ⟨h.globals_nodup, List.nodup_singleton _, ?_⟩
    rw [Graph.declares, List.any_eq_false] at hnew
    intro other hother hname
    obtain ⟨v, hv, rfl⟩ := List.mem_map.1 hother
    have hsame : v.name = name := by simpa using hname
    exact hnew v hv (decide_eq_true hsame)
  · intro v hv
    rcases List.mem_append.1 hv with hv | hv
    · exact h.value_singleLine v hv
    · rw [List.mem_singleton.1 hv]
      exact isMultiline_eq_false_iff.1 hline

theorem extend_rule (h : d.Consistent) {r : Rule} (hx : d.Admits (.rule r)) :
    (d.extend (.rule r)).Consistent := by
  have hnew : d.graph.rules.find? (fun s => s.name = r.name) = none := hx
  refine { h with rules_nodup := ?_, rule_declared := ?_ }
  · show ((d.graph.rules ++ [r]).map Rule.name).Nodup
    rw [List.map_append, List.nodup_append']
    refine ⟨h.rules_nodup, List.nodup_singleton _, ?_⟩
    intro name hname hsame
    obtain ⟨s, hs, rfl⟩ := List.mem_map.1 hname
    have hsr : s.name = r.name := by simpa using hsame
    exact List.find?_eq_none.1 hnew s hs (decide_eq_true hsr)
  · intro e he
    obtain ⟨s, hs, hname⟩ := h.rule_declared e he
    exact ⟨s, List.mem_append_left [r] hs, hname⟩

theorem extend_edge (h : d.Consistent) {e : Edge} (hx : d.Admits (.edge e)) :
    (d.extend (.edge e)).Consistent := by
  obtain ⟨hne, hrule, hfree, hdistinct⟩ := hx
  refine { h with outputs_ne_nil := ?_, rule_declared := ?_, outputs_distinct := ?_,
                  producers_eq := ?_ }
  · intro f hf
    rcases List.mem_append.1 hf with hf | hf
    · exact h.outputs_ne_nil f hf
    · rwa [List.mem_singleton.1 hf]
  · intro f hf
    rcases List.mem_append.1 hf with hf | hf
    · exact h.rule_declared f hf
    · rw [List.mem_singleton.1 hf]
      obtain ⟨r, hr⟩ := Option.isSome_iff_exists.1 hrule
      exact ⟨r, List.mem_of_find?_eq_some hr, by simpa using List.find?_some hr⟩
  · -- an output of the new edge is not produced yet, because the index lists all that is
    show Path.Distinct ((d.graph.edges ++ [e]).flatMap Edge.outputs)
    rw [List.flatMap_append, List.flatMap_singleton, Path.Distinct, List.pairwise_append]
    refine ⟨h.outputs_distinct, hdistinct, ?_⟩
    intro p hp q hq hpq
    have hq' := hfree q hq
    rw [h.producers_eq, Producers.contains_ofEdges, Path.isAmong_eq_false_iff] at hq'
    exact hq' p hp hpq
  · show d.producers.extend e.outputs d.graph.edges.length = Producers.ofEdges (d.graph.edges ++ [e])
    rw [Producers.ofEdges_append_singleton, h.producers_eq]

theorem extend_default (h : d.Consistent) (target : Path) :
    (d.extend (.default target)).Consistent := by
  by_cases hnew : target.isAmong d.graph.defaults = true
  · have hextend : d.extend (.default target) = d := by
      simp only [extend, Graph.add, if_pos hnew]
    rw [hextend]
    exact h
  · have hextend : d.extend (.default target) =
        { d with graph.defaults := d.graph.defaults ++ [target] } := by
      simp only [extend, Graph.add, if_neg hnew]
    rw [hextend]
    exact { h with
      defaults_distinct := Path.distinct_append_singleton.2
        ⟨h.defaults_distinct, Bool.eq_false_iff.2 hnew⟩ }

/-- **An admitted declaration keeps a draft consistent.** -/
theorem extend (h : d.Consistent) {x : Declaration} (hx : d.Admits x) :
    (d.extend x).Consistent := by
  cases x with
  | «variable» name value => exact h.extend_variable hx
  | rule r => exact h.extend_rule hx
  | edge e => exact h.extend_edge hx
  | default target => exact h.extend_default target

/-- A declaration keeps a draft consistent, whether it is accepted or not. -/
theorem submit (h : d.Consistent) (x : Declaration) : (d.submit x).Consistent := by
  rcases submit_cases d x with ⟨hadmits, -, hsubmit⟩ | ⟨-, -, hsubmit⟩
  · rw [hsubmit]
    exact h.extend hadmits
  · rw [hsubmit]
    exact h

theorem submitAll (h : d.Consistent) (xs : List Declaration) : (d.submitAll xs).Consistent := by
  induction xs generalizing d with
  | nil => exact h
  | cons x rest ih =>
    rw [submitAll_cons]
    exact ih (h.submit x)

/-- The place of a path in the index is the place of the one edge that lists it. -/
theorem place?_eq_some_iff (h : d.Consistent) {p : Path} {place : Nat} :
    d.producers.place? p = some place ↔
      ∃ e, d.graph.edges[place]? = some e ∧ p.isAmong e.outputs = true := by
  rw [h.producers_eq, Producers.place?_ofEdges]
  constructor
  · intro hfind
    obtain ⟨hlt, hp, -⟩ := List.findIdx?_eq_some_iff_getElem.1 hfind
    exact ⟨_, List.getElem?_eq_getElem hlt, hp⟩
  · rintro ⟨e, he, hp⟩
    have hsome : (d.graph.edges.findIdx? fun e => p.isAmong e.outputs).isSome = true := by
      rw [List.findIdx?_isSome, List.any_eq_true]
      exact ⟨e, List.mem_of_getElem? he, hp⟩
    obtain ⟨other, hother⟩ := Option.isSome_iff_exists.1 hsome
    obtain ⟨hlt, hp', -⟩ := List.findIdx?_eq_some_iff_getElem.1 hother
    rw [hother, place_unique h.outputs_distinct he (List.getElem?_eq_getElem hlt) hp hp']

theorem rule?_name (h : d.Consistent) {r : Rule} (hr : r ∈ d.graph.rules) :
    d.graph.rule? r.name = some r := by
  have hsome : (d.graph.rule? r.name).isSome = true := by
    rw [Graph.rule?, List.find?_isSome]
    exact ⟨r, hr, decide_eq_true rfl⟩
  obtain ⟨s, hs⟩ := Option.isSome_iff_exists.1 hsome
  have hname : s.name = r.name := by simpa using List.find?_some hs
  rw [hs, List.inj_on_of_nodup_map h.rules_nodup (List.mem_of_find?_eq_some hs) hr hname]

/-- Two edges that list the same path are one. -/
theorem edge_unique (h : d.Consistent) {p : Path} {e f : Edge} (he : e ∈ d.graph.edges)
    (hf : f ∈ d.graph.edges) (hp : p.isAmong e.outputs = true) (hq : p.isAmong f.outputs = true) :
    e = f := by
  obtain ⟨i, hi⟩ := List.mem_iff_getElem?.1 he
  obtain ⟨j, hj⟩ := List.mem_iff_getElem?.1 hf
  rw [place_unique h.outputs_distinct hi hj hp hq, hj] at hi
  exact (Option.some.inj hi).symm

theorem edges_nodup (h : d.Consistent) : d.graph.edges.Nodup :=
  nodup_of_distinct_outputs h.outputs_distinct h.outputs_ne_nil

/-- Of all edges, only the one that lists a path is found by it. -/
theorem filter_isAmong (h : d.Consistent) {p : Path} {e : Edge} (he : e ∈ d.graph.edges)
    (hp : p.isAmong e.outputs = true) :
    d.graph.edges.filter (fun f => p.isAmong f.outputs) = [e] := by
  have hfilter : d.graph.edges.filter (fun f => p.isAmong f.outputs) =
      d.graph.edges.filter (fun f => f == e) := by
    refine List.filter_congr fun f hf => ?_
    rw [Bool.eq_iff_iff, beq_iff_eq]
    constructor
    · intro hpf
      exact h.edge_unique hf he hpf hp
    · rintro rfl
      exact hp
  rw [hfilter, List.filter_beq, List.count_eq_one_of_mem h.edges_nodup he]
  rfl

/-- Every edge is an edge of exactly one declared rule. -/
theorem length_filter_edgesFor (h : d.Consistent) {e : Edge} (he : e ∈ d.graph.edges) :
    (d.graph.rules.filter fun r => e ∈ d.graph.edgesFor r.name).length = 1 := by
  obtain ⟨r, hr, hname⟩ := h.rule_declared e he
  have hiff : ∀ s ∈ d.graph.rules, (e ∈ d.graph.edgesFor s.name) ↔ s = r := by
    intro s hs
    rw [Graph.edgesFor, List.mem_filter]
    constructor
    · rintro ⟨-, hrule⟩
      have hsr : s.name = r.name := by rw [hname]; exact (of_decide_eq_true hrule).symm
      exact List.inj_on_of_nodup_map h.rules_nodup hs hr hsr
    · rintro rfl
      exact ⟨he, decide_eq_true hname.symm⟩
  have hfilter : (d.graph.rules.filter fun s => e ∈ d.graph.edgesFor s.name) =
      d.graph.rules.filter fun s => s = r := by
    refine List.filter_congr ?_
    intro s hs
    rw [decide_eq_decide]
    exact hiff s hs
  rw [hfilter, ← List.countP_eq_length_filter]
  exact List.count_eq_one_of_mem h.rules_nodup.of_map hr

end Consistent

/-! ### Calls -/

/-- A call on a draft. Planning and regeneration make several declarations and stop at the first that
is at fault. -/
inductive Call where
  /-- A single declaration. -/
  | declare (x : Declaration)
  /-- The declarations of a plan. -/
  | assemble (rules : StandardRules) (flags : ToolchainFlags) (manifest : Manifest)
      (settings : Settings)
  /-- The declarations of the regeneration step. -/
  | regenerate (rules : StandardRules) (invocation : Invocation)

/-- The draft after a call, however the call ended. -/
def call (d : Draft) : Call → Draft
  | .declare x => d.submit x
  | .assemble rules flags manifest settings =>
    (d.perform ((Assembly.declarations rules flags manifest settings).map .ok)).1
  | .regenerate rules invocation => (d.perform (invocation.declarations rules)).1

/-- The draft after calls in turn. -/
def callAll (d : Draft) (calls : List Call) : Draft := calls.foldl call d

/-- A call does what submitting some declarations does. -/
theorem call_eq_submitAll (d : Draft) (c : Call) : ∃ xs, d.call c = d.submitAll xs := by
  cases c with
  | declare x => exact ⟨[x], rfl⟩
  | assemble rules flags manifest settings =>
    obtain ⟨xs, hxs, -, -⟩ := perform_eq d
      ((Assembly.declarations rules flags manifest settings).map .ok)
    exact ⟨xs, hxs⟩
  | regenerate rules invocation =>
    obtain ⟨xs, hxs, -, -⟩ := perform_eq d (invocation.declarations rules)
    exact ⟨xs, hxs⟩

/-- Calls in turn do what submitting some declarations does. -/
theorem callAll_eq_submitAll (d : Draft) (calls : List Call) :
    ∃ xs, d.callAll calls = d.submitAll xs := by
  induction calls generalizing d with
  | nil => exact ⟨[], rfl⟩
  | cons c calls ih =>
    obtain ⟨xs, hxs⟩ := call_eq_submitAll d c
    obtain ⟨ys, hys⟩ := ih (d.submitAll xs)
    refine ⟨xs ++ ys, ?_⟩
    rw [submitAll_append, ← hys, ← hxs]
    rfl

theorem consistent_submitAll (xs : List Declaration) : (submitAll {} xs).Consistent :=
  consistent_empty.submitAll xs

theorem eq_graph_of_finish {d : Draft} {g : Graph} (h : d.finish = .ok g) : g = d.graph := by
  unfold finish at h
  split at h
  · cases h
  · split at h
    · cases h
    · split at h
      · cases h
      · cases h
        rfl

end Draft

namespace Graph

/-- Calls on an empty draft were finished with this graph. -/
def Finished (g : Graph) : Prop := ∃ calls, (Draft.callAll {} calls).finish = .ok g

theorem finished_of_submitAll {g : Graph} {xs : List Declaration}
    (h : (Draft.submitAll {} xs).finish = .ok g) : g.Finished := by
  refine ⟨xs.map .declare, ?_⟩
  rw [Draft.callAll, List.foldl_map]
  exact h

/-- A finished graph is the graph of a consistent draft. -/
theorem Finished.exists_consistent {g : Graph} (h : g.Finished) :
    ∃ d : Draft, d.Consistent ∧ d.finish = .ok g ∧ d.graph = g := by
  obtain ⟨calls, hfinish⟩ := h
  obtain ⟨xs, hxs⟩ := Draft.callAll_eq_submitAll {} calls
  exact ⟨_, hxs ▸ Draft.consistent_submitAll xs, hfinish, (Draft.eq_graph_of_finish hfinish).symm⟩

end Graph

namespace Draft

/-- **Every draft that calls lead to is consistent**, also where a call stopped midway. The index
knows exactly the outputs of the edges, each with the place of the one edge that lists it, and looking
a path up is scanning the edges. So every edge of the finished graph belongs to exactly one declared
rule. -/
theorem consistent_callAll (calls : List Call) :
    (callAll {} calls).Consistent ∧
      (∀ r ∈ (callAll {} calls).graph.rules,
        (callAll {} calls).graph.rule? r.name = some r) ∧
      ((callAll {} calls).producers.map Prod.fst =
        (callAll {} calls).graph.outputs.map Path.components) ∧
      (∀ p place, (callAll {} calls).producers.place? p = some place ↔
        ∃ e, (callAll {} calls).graph.edges[place]? = some e ∧ p.isAmong e.outputs = true) ∧
      (∀ p, (callAll {} calls).producers.place? p =
        (callAll {} calls).graph.edges.findIdx? fun e => p.isAmong e.outputs) ∧
      ∀ g, (callAll {} calls).finish = .ok g → ∀ e ∈ g.edges,
        (g.rules.filter fun r => e ∈ g.edgesFor r.name).length = 1 := by
  obtain ⟨xs, hxs⟩ := callAll_eq_submitAll {} calls
  have hd : (callAll {} calls).Consistent := hxs ▸ consistent_submitAll xs
  refine ⟨hd, fun r hr => hd.rule?_name hr, ?_, fun p place => hd.place?_eq_some_iff, ?_, ?_⟩
  · rw [hd.producers_eq, Producers.keys_ofEdges]
    rfl
  · intro p
    rw [hd.producers_eq, Producers.place?_ofEdges]
  · intro g hg e he
    rw [eq_graph_of_finish hg] at he ⊢
    exact hd.length_filter_edgesFor he

end Draft

end BuildPlan
