import BuildPlan.Graph.Draft
import BuildPlan.Proofs.Outcome
import Mathlib.Data.List.Basic

/-!
# What a declaration does to a draft

A declaration works on the draft in place and may be refused at any point of its work. This file says
once what refuses it and what it adds if nothing does, so that nothing later has to look into the
single kinds of declarations again. Most of it is about edges, whose outputs are gone through twice.

* `Draft.fault?` — what is wrong with a declaration; `Draft.extend` — the draft with one more.
* `run_checkOutputs` and `run_recordOutputs` — checking outputs changes nothing, and recording them
  cannot fail.
* **`run_declare`** — a declaration with a fault is answered with it and leaves the draft as it was;
  any other extends the draft.
* `Draft.Admits` — the conditions under which a draft accepts a declaration.
* `Graph.ofDeclarations` — the graph that a list of declarations describes: its variables, rules and
  edges as they stand in the list, and its default targets without those that repeat an earlier one.
* **`graph_submitAll`** — after any sequence of declarations, the graph is the one that the accepted
  among them describe.
* **`perform_eq`** — a sequence that stops at its first fault has done what submitting the
  declarations before that fault does.
-/

namespace BuildPlan

namespace Path

/-- No two paths of the list are the same. -/
def Distinct (ps : List Path) : Prop := ps.Pairwise fun p q => ¬ p.Same q

/-- The paths of a list without those that repeat an earlier one. -/
def firsts (ps : List Path) : List Path :=
  ps.foldl (fun kept p => if p.isAmong kept then kept else kept ++ [p]) []

theorem isAmong_eq_false_iff {p : Path} {ps : List Path} :
    p.isAmong ps = false ↔ ∀ q ∈ ps, ¬ q.Same p := by
  rw [← Bool.not_eq_true, isAmong_iff]
  simp only [not_exists, not_and]

theorem isAmong_of_mem {p : Path} {ps : List Path} (h : p ∈ ps) : p.isAmong ps = true :=
  isAmong_iff.2 ⟨p, h, Same.refl p⟩

/-- One more path keeps a list distinct if it is not among it. -/
theorem distinct_append_singleton {ps : List Path} {p : Path} :
    Distinct (ps ++ [p]) ↔ Distinct ps ∧ p.isAmong ps = false := by
  rw [isAmong_eq_false_iff, Distinct, List.pairwise_append]
  simp [Distinct]

theorem firsts_append_singleton (ps : List Path) (p : Path) :
    firsts (ps ++ [p]) = if p.isAmong (firsts ps) then firsts ps else firsts ps ++ [p] := by
  rw [firsts, List.foldl_append]
  rfl

end Path

/-! ### The index with the outputs of one more edge -/

namespace Producers

/-- The index with some outputs behind it, all with one place. -/
def extend (producers : Producers) (outputs : List Path) (place : Nat) : Producers :=
  producers ++ outputs.map fun output => (output.components, place)

/-- A path that has no place yet is put behind the others. -/
theorem put_of_new {producers : Producers} {p : Path} (h : producers.contains p = false)
    (place : Nat) : producers.put p place = producers.extend [p] place := by
  rw [put, h]
  rfl

/-- A path is found in the extended index where it was before, or else among the new outputs. -/
theorem place?_extend (producers : Producers) (outputs : List Path) (place : Nat) (p : Path) :
    (producers.extend outputs place).place? p =
      (producers.place? p).or (if p.isAmong outputs then some place else none) := by
  rw [place?, extend, List.lookup_append, ← place?]
  congr 1
  induction outputs with
  | nil => rfl
  | cons q outputs ih =>
    rw [List.map_cons, List.lookup_cons, ih]
    by_cases hq : q.Same p
    · rw [show (p.components == q.components) = true from beq_iff_eq.2 (Eq.symm hq)]
      simp [Path.isAmong, hq]
    · rw [show (p.components == q.components) = false from
        beq_eq_false_iff_ne.2 fun h => hq (Eq.symm h)]
      simp [Path.isAmong, hq]

theorem contains_extend (producers : Producers) (outputs : List Path) (place : Nat) (p : Path) :
    (producers.extend outputs place).contains p = (producers.contains p || p.isAmong outputs) := by
  rw [contains, place?_extend, Option.isSome_or, ← contains]
  cases p.isAmong outputs <;> rfl

/-- Distinct paths without a place are put behind the others in their order. -/
theorem foldl_put {producers : Producers} {outputs : List Path} {place : Nat}
    (hnew : ∀ p ∈ outputs, producers.contains p = false) (hdistinct : Path.Distinct outputs) :
    outputs.foldl (fun made p => made.put p place) producers = producers.extend outputs place := by
  induction outputs generalizing producers with
  | nil => simp [extend]
  | cons p rest ih =>
    obtain ⟨hfirst, hrest⟩ := List.pairwise_cons.1 hdistinct
    rw [List.foldl_cons, put_of_new (hnew p List.mem_cons_self), ih ?_ hrest]
    · simp [extend]
    · intro q hq
      rw [contains_extend, hnew q (List.mem_cons_of_mem p hq)]
      simp [Path.isAmong, hfirst q hq]

end Producers

/-! ### What a list of declarations describes -/

namespace Declaration

/-- The variable that is declared. -/
def global? : Declaration → Option Variable
  | .variable name value => some ⟨name, value⟩
  | _ => none

/-- The rule that is declared. -/
def rule? : Declaration → Option Rule
  | .rule r => some r
  | _ => none

/-- The edge that is declared. -/
def edge? : Declaration → Option Edge
  | .edge e => some e
  | _ => none

/-- The default target that is declared. -/
def target? : Declaration → Option Path
  | .default target => some target
  | _ => none

end Declaration

namespace Graph

/-- The graph that a list of declarations describes. -/
def ofDeclarations (xs : List Declaration) : Graph where
  globals := xs.filterMap Declaration.global?
  rules := xs.filterMap Declaration.rule?
  edges := xs.filterMap Declaration.edge?
  defaults := Path.firsts (xs.filterMap Declaration.target?)

/-- The graph with one more declaration. -/
def add (g : Graph) : Declaration → Graph
  | .variable name value => { g with globals := g.globals ++ [⟨name, value⟩] }
  | .rule r => { g with rules := g.rules ++ [r] }
  | .edge e => { g with edges := g.edges ++ [e] }
  | .default target =>
    if target.isAmong g.defaults then g else { g with defaults := g.defaults ++ [target] }

theorem ofDeclarations_append_singleton (xs : List Declaration) (x : Declaration) :
    ofDeclarations (xs ++ [x]) = (ofDeclarations xs).add x := by
  simp only [ofDeclarations, List.filterMap_append]
  cases x with
  | «variable» name value => simp [add, List.filterMap_cons, Declaration.global?,
      Declaration.rule?, Declaration.edge?, Declaration.target?]
  | rule r => simp [add, List.filterMap_cons, Declaration.global?, Declaration.rule?,
      Declaration.edge?, Declaration.target?]
  | edge e => simp [add, List.filterMap_cons, Declaration.global?, Declaration.rule?,
      Declaration.edge?, Declaration.target?]
  | default target =>
    simp only [add, List.filterMap_cons, List.filterMap_nil, Declaration.global?,
      Declaration.rule?, Declaration.edge?, Declaration.target?, List.append_nil,
      Path.firsts_append_singleton]
    split <;> rfl

end Graph

namespace Draft

/-! ### What is wrong with a declaration, and what it adds -/

/-- The first output that is produced already, or that stands before itself in the list. The list
`seen` holds the outputs already looked at. -/
def taken? (producers : Producers) (seen : List Path) : List Path → Option Path
  | [] => none
  | output :: rest =>
    if producers.contains output || output.isAmong seen then some output
    else taken? producers (output :: seen) rest

/-- What is wrong with a declaration. -/
def fault? (d : Draft) : Declaration → Option PlanError
  | .variable name value =>
    if d.graph.declares name then some (.duplicateVariable name)
    else if isMultiline value then some (.multilineVariable name)
    else none
  | .rule r => if (d.graph.rule? r.name).isSome then some (.duplicateRule r.name) else none
  | .edge e =>
    match e.outputs with
    | [] => some (.emptyOutputs e.rule)
    | first :: _ =>
      if (d.graph.rule? e.rule).isNone then some (.unknownRule e.rule first)
      else (taken? d.producers [] e.outputs).map .duplicateOutput
  | .default _ => none

/-- The conditions under which a draft accepts a declaration. -/
def Admits (d : Draft) : Declaration → Prop
  | .variable name value => d.graph.declares name = false ∧ isMultiline value = false
  | .rule r => d.graph.rule? r.name = none
  | .edge e =>
    e.outputs ≠ [] ∧ (d.graph.rule? e.rule).isSome ∧
      (∀ p ∈ e.outputs, d.producers.contains p = false) ∧ Path.Distinct e.outputs
  | .default _ => True

/-- The draft with one more declaration. -/
def extend (d : Draft) (x : Declaration) : Draft where
  graph := d.graph.add x
  producers :=
    match x with
    | .edge e => d.producers.extend e.outputs d.graph.edges.length
    | _ => d.producers

/-- No output is taken exactly if none is produced yet, none stands before itself, and none is among
those looked at before. -/
theorem taken?_eq_none_iff {producers : Producers} {seen outputs : List Path} :
    taken? producers seen outputs = none ↔
      (∀ p ∈ outputs, producers.contains p = false ∧ p.isAmong seen = false) ∧
        Path.Distinct outputs := by
  induction outputs generalizing seen with
  | nil => simp [taken?, Path.Distinct]
  | cons p rest ih =>
    rw [taken?]
    split
    · rename_i h
      rw [Bool.or_eq_true] at h
      constructor
      · intro hnone
        cases hnone
      · rintro ⟨hfree, -⟩
        obtain ⟨h1, h2⟩ := hfree p List.mem_cons_self
        rw [h1, h2] at h
        simp at h
    · rename_i h
      simp only [Bool.or_eq_true, not_or, Bool.not_eq_true] at h
      rw [ih, Path.Distinct, Path.Distinct, List.pairwise_cons]
      constructor
      · rintro ⟨hrest, hdistinct⟩
        refine ⟨?_, ?_, hdistinct⟩
        · intro q hq
          rcases List.mem_cons.1 hq with rfl | hq
          · exact h
          · obtain ⟨hfree, hamong⟩ := hrest q hq
            rw [Path.isAmong_eq_false_iff] at hamong ⊢
            exact ⟨hfree, fun r hr => hamong r (List.mem_cons_of_mem p hr)⟩
        · intro q hq
          have hamong := (hrest q hq).2
          rw [Path.isAmong_eq_false_iff] at hamong
          exact hamong p List.mem_cons_self
      · rintro ⟨hall, hfirst, hdistinct⟩
        refine ⟨?_, hdistinct⟩
        intro q hq
        obtain ⟨hfree, hamong⟩ := hall q (List.mem_cons_of_mem p hq)
        refine ⟨hfree, ?_⟩
        rw [Path.isAmong_eq_false_iff] at hamong ⊢
        intro r hr
        rcases List.mem_cons.1 hr with rfl | hr
        · exact hfirst q hq
        · exact hamong r hr

/-- Nothing is wrong with a declaration exactly if the draft admits it. -/
theorem fault?_eq_none_iff {d : Draft} {x : Declaration} : d.fault? x = none ↔ d.Admits x := by
  cases x with
  | «variable» name value =>
    simp only [fault?, Admits]
    cases d.graph.declares name <;> cases isMultiline value <;> simp
  | rule r =>
    simp only [fault?, Admits]
    cases d.graph.rule? r.name <;> simp
  | edge e =>
    have htaken : taken? d.producers [] e.outputs = none ↔
        (∀ p ∈ e.outputs, d.producers.contains p = false) ∧ Path.Distinct e.outputs := by
      rw [taken?_eq_none_iff]
      simp [Path.isAmong]
    simp only [fault?, Admits, ← htaken]
    split
    · rename_i hnil
      simp [hnil]
    · rename_i first rest hcons
      cases hrule : d.graph.rule? e.rule with
      | none => simp
      | some r => simp [hcons]
  | default target => simp [fault?, Admits]

/-! ### Running a declaration -/

theorem run_modify (f : Draft → Draft) (d : Draft) :
    (modify f : Drafting Unit).run d = (.ok (), f d) := rfl

theorem run_throw {α : Type} (fault : PlanError) (d : Draft) :
    (throw fault : Drafting α).run d = (.error fault, d) := rfl

theorem run_ite {c : Prop} [Decidable c] (x y : Drafting Unit) (d : Draft) :
    (if c then x else y).run d = if c then x.run d else y.run d := by
  split <;> rfl

/-- **Checking outputs changes nothing**, whether it comes to the end or not. -/
theorem run_checkOutputs (seen outputs : List Path) (d : Draft) :
    (checkOutputs seen outputs).run d =
      match taken? d.producers seen outputs with
      | some output => (.error (.duplicateOutput output), d)
      | none => (.ok (), d) := by
  induction outputs generalizing seen with
  | nil => rfl
  | cons output rest ih =>
    rw [checkOutputs, run_get_bind, taken?, run_ite, run_throw, ih]
    split <;> rfl

/-- Recording outputs does not fail. They are put in the index one after the other. -/
theorem run_recordOutputs (place : Nat) (outputs : List Path) (d : Draft) :
    (recordOutputs place outputs).run d =
      (.ok (), { d with producers := outputs.foldl (fun made p => made.put p place) d.producers }) := by
  induction outputs generalizing d with
  | nil => rfl
  | cons output rest ih =>
    rw [recordOutputs, run_bind_of_ok (run_modify _ d)]
    exact ih _

/-- An edge is refused before anything of it is recorded, or else is recorded as a whole. -/
theorem run_declareEdge (e : Edge) (d : Draft) :
    (declareEdge e).run d =
      match d.fault? (.edge e) with
      | some fault => (.error fault, d)
      | none => (.ok (), d.extend (.edge e)) := by
  rw [declareEdge, fault?]
  cases houtputs : e.outputs with
  | nil => rfl
  | cons first more =>
    dsimp only
    rw [run_get_bind, run_ite, run_throw]
    split
    · rfl
    · rw [← houtputs]
      have hcheck := run_checkOutputs [] e.outputs d
      cases htaken : taken? d.producers [] e.outputs with
      | some output =>
        rw [htaken] at hcheck
        rw [run_bind_of_error hcheck]
        rfl
      | none =>
        rw [htaken] at hcheck
        rw [run_bind_of_ok hcheck, run_get_bind,
          run_bind_of_ok (run_recordOutputs d.graph.edges.length e.outputs d)]
        -- no output has a place yet, so each of them is put behind the others
        obtain ⟨hnew, hdistinct⟩ := taken?_eq_none_iff.1 htaken
        rw [Producers.foldl_put (fun p hp => (hnew p hp).1) hdistinct]
        rfl

/-- **A declaration with a fault is answered with it and leaves the draft as it was; any other extends
the draft.** -/
theorem run_declare (x : Declaration) (d : Draft) :
    (declare x).run d =
      match d.fault? x with
      | some fault => (.error fault, d)
      | none => (.ok (), d.extend x) := by
  cases x with
  | «variable» name value =>
    rw [declare, declareVariable, run_get_bind, fault?, run_ite, run_ite, run_throw, run_throw,
      run_modify]
    split
    · rfl
    · split <;> rfl
  | rule r =>
    rw [declare, declareRule, run_get_bind, fault?, run_ite, run_throw, run_modify]
    split <;> rfl
  | edge e => exact run_declareEdge e d
  | default target =>
    rw [declare, declareDefault, run_modify]
    simp only [fault?, extend, Graph.add]
    split <;> rfl

variable {d : Draft} {x : Declaration} {fault : PlanError}

theorem answer_eq_error_iff : d.answer x = .error fault ↔ d.fault? x = some fault := by
  rw [answer, run_declare]
  cases d.fault? x with
  | none => exact ⟨nofun, nofun⟩
  | some other => exact ⟨fun h => by cases h; rfl, fun h => by cases h; rfl⟩

/-- **A refused declaration leaves the draft as it was**, its index included. -/
theorem submit_of_error (h : d.answer x = .error fault) : d.submit x = d := by
  rw [submit, run_declare, answer_eq_error_iff.1 h]

/-- A declaration is accepted exactly if it is admitted. -/
theorem answer_eq_ok_iff : d.answer x = .ok () ↔ d.Admits x := by
  rw [← fault?_eq_none_iff, answer, run_declare]
  cases d.fault? x with
  | none => exact ⟨fun _ => rfl, fun _ => rfl⟩
  | some other => exact ⟨nofun, nofun⟩

/-- An admitted declaration extends the draft. -/
theorem submit_of_admits (h : d.Admits x) : d.submit x = d.extend x := by
  rw [submit, run_declare, fault?_eq_none_iff.2 h]

/-- A draft with a declaration submitted is the draft extended or the draft itself. -/
theorem submit_cases (d : Draft) (x : Declaration) :
    (d.Admits x ∧ d.answer x = .ok () ∧ d.submit x = d.extend x) ∨
      (¬ d.Admits x ∧ (∃ fault, d.answer x = .error fault) ∧ d.submit x = d) := by
  cases hx : d.answer x with
  | ok =>
    have hadmits := answer_eq_ok_iff.1 hx
    exact .inl ⟨hadmits, rfl, submit_of_admits hadmits⟩
  | error fault =>
    refine .inr ⟨?_, ⟨fault, rfl⟩, submit_of_error hx⟩
    intro hadmits
    rw [answer_eq_ok_iff.2 hadmits] at hx
    cases hx

/-! ### Sequences of declarations -/

/-- The declarations of a sequence that are accepted when they are submitted one after the other. -/
def accepted (d : Draft) : List Declaration → List Declaration
  | [] => []
  | x :: rest =>
    match d.answer x with
    | .ok () => x :: (d.submit x).accepted rest
    | .error _ => (d.submit x).accepted rest

theorem accepted_cons_of_ok (h : d.answer x = .ok ()) (rest : List Declaration) :
    d.accepted (x :: rest) = x :: (d.submit x).accepted rest := by
  rw [accepted, h]

theorem accepted_cons_of_error (h : d.answer x = .error fault) (rest : List Declaration) :
    d.accepted (x :: rest) = d.accepted rest := by
  rw [accepted, h, submit_of_error h]

@[simp] theorem submitAll_nil (d : Draft) : d.submitAll [] = d := rfl

theorem submitAll_cons (d : Draft) (x : Declaration) (rest : List Declaration) :
    d.submitAll (x :: rest) = (d.submit x).submitAll rest := rfl

theorem submitAll_append (d : Draft) (xs ys : List Declaration) :
    d.submitAll (xs ++ ys) = (d.submitAll xs).submitAll ys := by
  rw [submitAll, List.foldl_append, ← submitAll, ← submitAll]

/-- From a draft whose graph is described by `made`, the accepted declarations are added to those. -/
theorem graph_submitAll_of_graph {d : Draft} {made : List Declaration}
    (h : d.graph = Graph.ofDeclarations made) (xs : List Declaration) :
    (d.submitAll xs).graph = Graph.ofDeclarations (made ++ d.accepted xs) := by
  induction xs generalizing d made with
  | nil => simpa [accepted] using h
  | cons x rest ih =>
    rw [submitAll_cons]
    rcases submit_cases d x with ⟨-, hok, hsubmit⟩ | ⟨-, ⟨fault, herror⟩, hsubmit⟩
    · have hnext : (d.submit x).graph = Graph.ofDeclarations (made ++ [x]) := by
        rw [hsubmit, Graph.ofDeclarations_append_singleton, ← h]
        rfl
      rw [ih hnext, accepted_cons_of_ok hok, List.append_assoc, List.singleton_append]
    · rw [hsubmit, accepted_cons_of_error herror, ih h]

/-- **The graph of a draft is what its accepted declarations describe, in order.** -/
theorem graph_submitAll (xs : List Declaration) :
    (submitAll {} xs).graph = Graph.ofDeclarations (accepted {} xs) :=
  @graph_submitAll_of_graph {} [] rfl xs

/-- A sequence goes on after an accepted declaration and stops at a refused one. -/
theorem perform_cons (d : Draft) (x : Declaration) (rest : List (Except PlanError Declaration)) :
    d.perform (.ok x :: rest) =
      match d.answer x with
      | .ok () => (d.submit x).perform rest
      | .error fault => (d.submit x, some fault) := by
  rw [perform, answer, submit]
  cases (declare x).run d with
  | mk result next => cases result <;> rfl

/-- **Stopping at the first fault leaves what the declarations before it add.** If there was no fault,
these are all, and each of them was accepted. -/
theorem perform_eq (d : Draft) (ys : List (Except PlanError Declaration)) :
    ∃ xs, (d.perform ys).1 = d.submitAll xs ∧ d.accepted xs = xs ∧
      ((d.perform ys).2 = none → ys = xs.map .ok) := by
  induction ys generalizing d with
  | nil => exact ⟨[], rfl, rfl, fun _ => rfl⟩
  | cons y rest ih =>
    cases y with
    | error fault => exact ⟨[], rfl, rfl, fun h => by cases h⟩
    | ok x =>
      rw [perform_cons]
      cases hx : d.answer x with
      | error fault => exact ⟨[], submit_of_error hx, rfl, fun h => by cases h⟩
      | ok =>
        obtain ⟨xs, hdraft, haccepted, hall⟩ := ih (d.submit x)
        refine ⟨x :: xs, hdraft, ?_, ?_⟩
        · rw [accepted_cons_of_ok hx, haccepted]
        · intro hnone
          rw [hall hnone, List.map_cons]

end Draft

end BuildPlan
