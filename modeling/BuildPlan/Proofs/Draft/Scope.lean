import BuildPlan.Proofs.Draft.Refusals

/-!
# Declarations in scope

Most of what can be wrong with a declaration shows in the names alone: a variable or a rule of that name is
there already, or an edge makes nothing or comes before its rule. Whether a sequence of declarations is free
of such faults can be told without a draft. It then takes a value of many lines or a clash of outputs for
one of them to be refused.

* `Scope` — the names declared so far; `Draft.scope` — those of a draft.
* `Declaration.Scoped` — nothing is wrong with the names of a declaration; `Declaration.bind` — the names
  that it adds.
* `Scope.Allows` — the same for a sequence, up to the first entry that is no declaration at all.
* `Consistent.answer_eq_error_of_scoped` — what else a declaration is refused for.
* **`Consistent.exists_of_perform_of_allows`** — what a sequence without such faults stops at.
-/

namespace BuildPlan

/-- The names declared so far. -/
structure Scope where
  /-- The names of the variables. -/
  globals : List String := []
  /-- The names of the rules. -/
  rules : List String := []

namespace Declaration

/-- Nothing is wrong with the names of the declaration: those that it adds are new, and that of an edge's
rule is known. -/
def Scoped (s : Scope) : Declaration → Prop
  | .variable name _ => name ∉ s.globals
  | .rule r => r.name ∉ s.rules
  | .edge e => e.outputs ≠ [] ∧ e.rule ∈ s.rules
  | .default _ => True

/-- The names with those that the declaration adds. -/
def bind (s : Scope) : Declaration → Scope
  | .variable name _ => { s with globals := s.globals ++ [name] }
  | .rule r => { s with rules := s.rules ++ [r.name] }
  | .edge _ => s
  | .default _ => s

end Declaration

namespace Scope

/-- Nothing is wrong with the names of any declaration of a sequence, where names are declared from the first
on. An entry that is no declaration ends the sequence. -/
def Allows (s : Scope) : List (Except PlanError Declaration) → Prop
  | [] => True
  | .error _ :: _ => True
  | .ok x :: rest => x.Scoped s ∧ (x.bind s).Allows rest

section

variable {s : Scope} {rest : List (Except PlanError Declaration)}

@[simp] theorem allows_nil : s.Allows [] := trivial

@[simp] theorem allows_error {fault : PlanError} : s.Allows (.error fault :: rest) := trivial

@[simp] theorem allows_variable_iff {name value : String} :
    s.Allows (.ok (.variable name value) :: rest) ↔
      name ∉ s.globals ∧ { s with globals := s.globals ++ [name] }.Allows rest := Iff.rfl

@[simp] theorem allows_rule_iff {r : Rule} :
    s.Allows (.ok (.rule r) :: rest) ↔
      r.name ∉ s.rules ∧ { s with rules := s.rules ++ [r.name] }.Allows rest := Iff.rfl

@[simp] theorem allows_edge_iff {e : Edge} :
    s.Allows (.ok (.edge e) :: rest) ↔ (e.outputs ≠ [] ∧ e.rule ∈ s.rules) ∧ s.Allows rest := Iff.rfl

@[simp] theorem allows_default_iff {target : Path} :
    s.Allows (.ok (.default target) :: rest) ↔ s.Allows rest :=
  iff_of_eq (true_and _)

/-- Edges add no names, so they only have to find theirs. -/
theorem allows_edges_append {es : List Edge} (hes : ∀ e ∈ es, e.outputs ≠ [] ∧ e.rule ∈ s.rules)
    (hrest : s.Allows rest) : s.Allows ((es.map Declaration.edge).map .ok ++ rest) := by
  induction es with
  | nil => exact hrest
  | cons e es ih =>
    obtain ⟨he, hes⟩ := List.forall_mem_cons.1 hes
    exact allows_edge_iff.2 ⟨he, ih hes⟩

end

end Scope

namespace Draft

/-- The names declared in a draft. -/
def scope (d : Draft) : Scope where
  globals := d.graph.globals.map Variable.name
  rules := d.graph.rules.map Rule.name

theorem scope_extend (d : Draft) (x : Declaration) : (d.extend x).scope = x.bind d.scope := by
  cases x with
  | «variable» name value => simp [scope, extend, Graph.add, Declaration.bind]
  | rule r => simp [scope, extend, Graph.add, Declaration.bind]
  | edge e => rfl
  | default target =>
    simp only [scope, extend, Graph.add, Declaration.bind]
    split <;> rfl

theorem declares_eq_false_of_notMem {d : Draft} {name : String} (h : name ∉ d.scope.globals) :
    d.graph.declares name = false := by
  rw [Graph.declares, List.any_eq_false]
  intro v hv hname
  exact h (List.mem_map.2 ⟨v, hv, of_decide_eq_true hname⟩)

namespace Consistent

variable {d : Draft} {fault : PlanError}

/-- **What a declaration is refused for if nothing is wrong with its names**: its value has many lines, or one
of its outputs clashes. -/
theorem answer_eq_error_of_scoped (hd : d.Consistent) {x : Declaration} (hx : x.Scoped d.scope)
    (h : d.answer x = .error fault) :
    (∃ name value, x = .variable name value ∧ isMultiline value = true ∧
      fault = .multilineVariable name) ∨
    ∃ e p, x = .edge e ∧ d.graph.FirstClash e.outputs p ∧ fault = .duplicateOutput p := by
  rw [answer_eq_error_iff] at h
  cases x with
  | «variable» name value =>
    rw [fault?, if_neg (Bool.eq_false_iff.1 (declares_eq_false_of_notMem hx))] at h
    split at h
    · rename_i hlines
      cases h
      exact .inl ⟨name, value, rfl, hlines, rfl⟩
    · cases h
  | rule r =>
    have hnone : d.graph.rule? r.name = none :=
      Graph.rule?_eq_none_iff.2 fun s hs hname => hx (List.mem_map.2 ⟨s, hs, hname⟩)
    rw [fault?, hnone] at h
    cases h
  | edge e =>
    obtain ⟨hmakes, hrule⟩ := hx
    obtain ⟨r, hr, hname⟩ := List.mem_map.1 hrule
    cases hd.answer_edge_eq_error_iff.1 (answer_eq_error_iff.2 h) with
    | emptyOutputs hnil => exact absurd hnil hmakes
    | unknownRule _ hunknown => exact absurd hname (hunknown r hr)
    | duplicateOutput _ hclash => exact .inr ⟨e, _, rfl, hclash, rfl⟩
  | default target => cases h

/-- **What a sequence stops at if nothing is wrong with its names.** It is an entry that is no declaration,
or a value with many lines, or an edge with an output that clashes with those of the edges before it. -/
theorem exists_of_perform_of_allows (hd : d.Consistent) {ys : List (Except PlanError Declaration)}
    (hys : d.scope.Allows ys) (h : (d.perform ys).2 = some fault) :
    .error fault ∈ ys ∨
    (∃ name value, .ok (.variable name value) ∈ ys ∧ isMultiline value = true ∧
      fault = .multilineVariable name) ∨
    ∃ before e after p, ys = before.map .ok ++ .ok (.edge e) :: after ∧ d.accepted before = before ∧
      (d.submitAll before).graph.FirstClash e.outputs p ∧ fault = .duplicateOutput p := by
  induction ys generalizing d with
  | nil => cases h
  | cons y rest ih =>
    cases y with
    | error other =>
      cases h
      exact .inl List.mem_cons_self
    | ok x =>
      obtain ⟨hx, hrest⟩ := hys
      rw [perform_cons] at h
      cases hanswer : d.answer x with
      | error other =>
        rw [hanswer] at h
        cases h
        rcases hd.answer_eq_error_of_scoped hx hanswer with
          ⟨name, value, rfl, hlines, hfault⟩ | ⟨e, p, rfl, hclash, hfault⟩
        · exact .inr (.inl ⟨name, value, List.mem_cons_self, hlines, hfault⟩)
        · exact .inr (.inr ⟨[], e, rest, p, rfl, rfl, hclash, hfault⟩)
      | ok =>
        rw [hanswer] at h
        have hadmits := answer_eq_ok_iff.1 hanswer
        have hnext := submit_of_admits hadmits
        rw [← scope_extend, ← hnext] at hrest
        rcases ih (hnext ▸ hd.extend hadmits) hrest h with
          hmem | ⟨name, value, hmem, hlines, hfault⟩ | ⟨before, e, after, p, rfl, haccepted, hclash, hfault⟩
        · exact .inl (List.mem_cons_of_mem _ hmem)
        · exact .inr (.inl ⟨name, value, List.mem_cons_of_mem _ hmem, hlines, hfault⟩)
        · refine .inr (.inr ⟨x :: before, e, after, p, rfl, ?_, hclash, hfault⟩)
          rw [accepted_cons_of_ok hanswer, haccepted]

end Consistent

end Draft

end BuildPlan
