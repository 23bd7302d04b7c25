import BuildPlan.Proofs.Draft.Finishing
import BuildPlan.Proofs.Plan.Checks

/-!
# The shape of the graph of a request

Which edges a graph has is decided by the manifest alone: there is one for each generated source, one for
each object file, one for the binary, and one for the build file itself. Everything but the build file is
there for the sake of the binary, which is the only default target.

* `Graph.Reaches` — a path is reached from another by going to inputs that are produced in turn.
* `Outlined.edge_cases` — what an edge can be.
* `Outlined.reaches_object`, `Outlined.reaches_source` — object files and generated sources are reached
  from the binary.
* **`graph_shape`** — the edges one by one, the default target, and that all other outputs are reached
  from it.
-/

namespace BuildPlan

namespace Graph

/-- A path is reached from a start by going, as often as it takes, from what an edge makes to one of its
inputs that is produced by an edge as well. -/
inductive Reaches (g : Graph) (start : Path) : Path → Prop
  /-- The start itself. -/
  | refl : Reaches g start start
  /-- A produced input of the edge that makes a path reached before. -/
  | step {p q : Path} {e : Edge} : Reaches g start p → e ∈ g.edges → p.isAmong e.outputs = true →
      q ∈ e.inputs → g.Produced q → Reaches g start q

/-- The outputs of edges are produced. -/
theorem produced_of_mem {g : Graph} {e : Edge} {p : Path} (he : e ∈ g.edges) (hp : p ∈ e.outputs) :
    g.Produced p :=
  ⟨e, he, p, hp, Path.Same.refl p⟩

end Graph

namespace Request

namespace Outlined

variable {q : Request} {tree : FileTree} {r : Responder} {g : Graph} {flags : ToolchainFlags}
  {program arguments : String}

theorem defaults_eq (h : q.Outlined tree r g flags program arguments) :
    g.defaults = [q.manifest.binary] := by
  rw [h.graph_eq, defaults_outline]

theorem linkEdge_mem (h : q.Outlined tree r g flags program arguments) :
    Assembly.linkEdge q.manifest q.settings ∈ g.edges := by
  rw [h.edges_eq, Assembly.edges]
  simp

theorem compileEdge_mem (h : q.Outlined tree r g flags program arguments) {module : String}
    (hmodule : module ∈ q.manifest.modules) :
    Assembly.compileEdge q.manifest q.settings module ∈ g.edges := by
  rw [h.edges_eq, Assembly.edges]
  refine List.mem_append_left _ (List.mem_append_left _ (List.mem_append_right _ ?_))
  exact List.mem_map_of_mem hmodule

theorem generationEdge_mem (h : q.Outlined tree r g flags program arguments) {step : GenerationStep}
    (hstep : step ∈ q.manifest.steps) : Assembly.generationEdge q.manifest step ∈ g.edges := by
  rw [h.edges_eq, Assembly.edges]
  refine List.mem_append_left _ (List.mem_append_left _ (List.mem_append_left _ ?_))
  exact List.mem_map_of_mem hstep

/-- These are all the edges there are. -/
theorem edge_cases (h : q.Outlined tree r g flags program arguments) {e : Edge} (he : e ∈ g.edges) :
    (∃ step ∈ q.manifest.steps, e = Assembly.generationEdge q.manifest step) ∨
      (∃ module ∈ q.manifest.modules, e = Assembly.compileEdge q.manifest q.settings module) ∨
      e = Assembly.linkEdge q.manifest q.settings ∨ e = q.invocation.edge := by
  rw [h.edges_eq, Assembly.edges] at he
  rcases List.mem_append.1 he with he | he
  · rcases List.mem_append.1 he with he | he
    · rcases List.mem_append.1 he with he | he
      · obtain ⟨step, hstep, rfl⟩ := List.mem_map.1 he
        exact .inl ⟨step, hstep, rfl⟩
      · obtain ⟨module, hmodule, rfl⟩ := List.mem_map.1 he
        exact .inr (.inl ⟨module, hmodule, rfl⟩)
    · exact .inr (.inr (.inl (List.mem_singleton.1 he)))
  · exact .inr (.inr (.inr (List.mem_singleton.1 he)))

/-- Object files are reached from the binary: they are linked. -/
theorem reaches_object (h : q.Outlined tree r g flags program arguments) {module : String}
    (hmodule : module ∈ q.manifest.modules) :
    g.Reaches q.manifest.binary (Assembly.objectFor q.settings module) := by
  have hproduced : g.Produced (Assembly.objectFor q.settings module) :=
    Graph.produced_of_mem (h.compileEdge_mem hmodule) List.mem_cons_self
  exact .step .refl h.linkEdge_mem (Path.isAmong_of_mem List.mem_cons_self)
    (List.mem_map_of_mem hmodule) hproduced

/-- Generated sources are reached from the binary: the object file of their module is compiled from
them. -/
theorem reaches_source (h : q.Outlined tree r g flags program arguments) {step : GenerationStep}
    (hstep : step ∈ q.manifest.steps) (hmodule : step.module ∈ q.manifest.modules) :
    g.Reaches q.manifest.binary (q.manifest.sourceFor step.module) := by
  have hproduced : g.Produced (q.manifest.sourceFor step.module) :=
    Graph.produced_of_mem (h.generationEdge_mem hstep) List.mem_cons_self
  exact .step (h.reaches_object hmodule) (h.compileEdge_mem hmodule)
    (Path.isAmong_of_mem List.mem_cons_self) List.mem_cons_self hproduced

end Outlined

/-- **The shape of the graph of a request.** Its edges are those of the generated sources in the order
of the steps, those of the object files in the order of the modules, that of the binary and that of the
build file. Its only default target is the binary, from which the outputs of all edges but the last are
reached. -/
theorem graph_shape {q : Request} {tree : FileTree} {r : Responder} {g : Graph}
    (h : q.graph tree r = .ok g) :
    g.edges =
      (q.manifest.steps.map fun step =>
        { rule := "codegen"
          outputs := [q.manifest.sourceFor step.module]
          inputs := [step.template] }) ++
      (q.manifest.modules.map fun module =>
        { rule := "compile"
          outputs := [q.settings.buildDirectory.join ⟨module ++ ".o"⟩]
          inputs := [q.manifest.sourceFor module] }) ++
      [{ rule := "link"
         outputs := [q.manifest.binary]
         inputs := q.manifest.modules.map fun module =>
           q.settings.buildDirectory.join ⟨module ++ ".o"⟩ },
       { rule := "regenerate"
         outputs := [q.invocation.buildFile]
         inputs := []
         implicitInputs := [q.invocation.program] }] ∧
    g.defaults = [q.manifest.binary] ∧
    ∀ e ∈ g.edges, e.rule ≠ "regenerate" → ∀ p ∈ e.outputs, g.Reaches q.manifest.binary p := by
  obtain ⟨flags, program, arguments, houtlined⟩ := graph_outlined h
  refine ⟨?_, houtlined.defaults_eq, ?_⟩
  · rw [houtlined.edges_eq, Assembly.edges, List.append_assoc]
    rfl
  · intro e he hrule p hp
    rcases houtlined.edge_cases he with ⟨step, hstep, rfl⟩ | ⟨module, hmodule, rfl⟩ | rfl | rfl
    · rw [List.mem_singleton.1 hp]
      have hmodule := (Manifest.step_of_validate (validate_of_graph h) hstep).1
      exact houtlined.reaches_source hstep hmodule
    · rw [List.mem_singleton.1 hp]
      exact houtlined.reaches_object hmodule
    · rw [List.mem_singleton.1 hp]
      exact .refl
    · exact absurd rfl hrule

theorem graph_shape_small :
    ∃ g, (small "build.ninja").graph smallTree (.ofReplies []) = .ok g ∧
      g.edges.map Edge.outputs =
        [[⟨"src/gen.cc"⟩], [⟨"build/main.o"⟩], [⟨"build/gen.o"⟩], [⟨"app"⟩], [⟨"build.ninja"⟩]] ∧
      g.defaults = [⟨"app"⟩] ∧
      ∀ e ∈ g.edges, e.rule ≠ "regenerate" → ∀ p ∈ e.outputs, g.Reaches ⟨"app"⟩ p := by
  obtain ⟨g, hgraph⟩ := exists_graph_small
  obtain ⟨hedges, hdefaults, hreaches⟩ := graph_shape hgraph
  refine ⟨g, hgraph, ?_, hdefaults, hreaches⟩
  rw [hedges]
  decide

end Request

end BuildPlan
