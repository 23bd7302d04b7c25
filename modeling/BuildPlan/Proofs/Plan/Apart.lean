import BuildPlan.Proofs.Graph.Waiting
import BuildPlan.Proofs.Plan.Makers

/-!
# What is linked is not what it is linked from

No check compares the binary with the sources, the templates or the object files. That they differ all
the same comes from the finished graph, in which nothing waits for itself: the binary waits for the object
files, these wait for the sources, and a generated source waits for its template. In the same way the
build file waits for the program that writes it. Paths are told apart here by their components, as
everywhere in a draft: `app` and `./app` count as two.

* `Outlined.awaits_object`, `awaits_source`, `awaits_template`, `awaits_program` — what waits for what.
* **`binary_apart`** — the binary is none of the files that it is built from, nor the build file, and the
  build file is not the program.
-/

namespace BuildPlan

namespace Request

namespace Outlined

variable {q : Request} {tree : FileTree} {r : Responder} {g : Graph} {flags : ToolchainFlags}
  {program arguments : String}

/-- The binary waits for the object files, and these are made. -/
theorem awaits_object (h : q.Outlined tree r g flags program arguments) {module : String}
    (hmodule : module ∈ q.manifest.modules) :
    g.AwaitsMade q.manifest.binary (Assembly.objectFor q.settings module) := by
  refine ⟨h.finished.awaits_of_mem h.linkEdge_mem List.mem_cons_self ?_, ?_⟩
  · exact List.mem_append_left _ (List.mem_map_of_mem hmodule)
  · exact Graph.produced_of_mem (h.compileEdge_mem hmodule) List.mem_cons_self

theorem awaits_source (h : q.Outlined tree r g flags program arguments) {module : String}
    (hmodule : module ∈ q.manifest.modules) :
    g.Awaits (Assembly.objectFor q.settings module) (q.manifest.sourceFor module) :=
  h.finished.awaits_of_mem (h.compileEdge_mem hmodule) List.mem_cons_self List.mem_cons_self

theorem awaits_template (h : q.Outlined tree r g flags program arguments) {step : GenerationStep}
    (hstep : step ∈ q.manifest.steps) :
    g.Awaits (q.manifest.sourceFor step.module) step.template :=
  h.finished.awaits_of_mem (h.generationEdge_mem hstep) List.mem_cons_self List.mem_cons_self

theorem awaits_program (h : q.Outlined tree r g flags program arguments) :
    g.Awaits q.invocation.buildFile q.invocation.program := by
  refine h.finished.awaits_of_mem (e := q.invocation.edge) ?_ List.mem_cons_self List.mem_cons_self
  rw [h.edges_eq]
  exact List.mem_append_right _ List.mem_cons_self

/-- A generated source is made, and an object file waits for it. -/
theorem awaits_generated (h : q.Outlined tree r g flags program arguments) {step : GenerationStep}
    (hstep : step ∈ q.manifest.steps) :
    step.module ∈ q.manifest.modules ∧
      g.AwaitsMade (Assembly.objectFor q.settings step.module) (q.manifest.sourceFor step.module) := by
  have hmodule := (Manifest.step_of_validate h.validate_eq hstep).1
  refine ⟨hmodule, h.awaits_source hmodule, ?_⟩
  exact Graph.produced_of_mem (h.generationEdge_mem hstep) List.mem_cons_self

end Outlined

/-- **The binary is none of the files it is built from.** Where a request has a graph, the binary differs
by components from the object file and the source of every module, from the template of every generation
step and from the build file; and the build file differs from the program. -/
theorem binary_apart {q : Request} {tree : FileTree} {r : Responder} {g : Graph}
    (h : q.graph tree r = .ok g) :
    (∀ module ∈ q.manifest.modules,
      ¬ q.manifest.binary.Same (q.manifest.sourceFor module) ∧
      ¬ q.manifest.binary.Same (Assembly.objectFor q.settings module)) ∧
    (∀ step ∈ q.manifest.steps, ¬ q.manifest.binary.Same step.template) ∧
    ¬ q.manifest.binary.Same q.invocation.buildFile ∧
    ¬ q.invocation.buildFile.Same q.invocation.program := by
  obtain ⟨flags, program, arguments, houtlined⟩ := graph_outlined h
  have hfinished := houtlined.finished
  refine ⟨?_, ?_, houtlined.not_same_artefact List.mem_cons_self, ?_⟩
  · intro module hmodule
    have hobject := houtlined.awaits_object hmodule
    exact ⟨hfinished.not_same_of_awaits (.single hobject) (houtlined.awaits_source hmodule),
      hfinished.not_same_of_awaits .refl hobject.1⟩
  · -- the step generates the source of a listed module, or else the binary need not wait for it
    intro step hstep
    obtain ⟨hmodule, hsource⟩ := houtlined.awaits_generated hstep
    have hway : Relation.ReflTransGen g.AwaitsMade q.manifest.binary
        (q.manifest.sourceFor step.module) :=
      (Relation.ReflTransGen.single (houtlined.awaits_object hmodule)).tail hsource
    exact hfinished.not_same_of_awaits hway (houtlined.awaits_template hstep)
  · exact hfinished.not_same_of_awaits .refl houtlined.awaits_program

theorem binary_apart_small :
    ∃ g, (small "build.ninja").graph smallTree (.ofReplies []) = .ok g ∧
      ¬ (Path.mk "app").Same ⟨"src/main.cc"⟩ ∧ ¬ (Path.mk "app").Same ⟨"build/gen.o"⟩ ∧
      ¬ (Path.mk "app").Same ⟨"src/gen.in.cc"⟩ ∧ ¬ (Path.mk "app").Same ⟨"build.ninja"⟩ ∧
      ¬ (Path.mk "build.ninja").Same ⟨"/configure"⟩ := by
  obtain ⟨g, hgraph⟩ := exists_graph_small
  obtain ⟨hmodules, hsteps, hbuildFile, hprogram⟩ := binary_apart hgraph
  exact ⟨g, hgraph, (hmodules "main" (by decide)).1, (hmodules "gen" (by decide)).2,
    hsteps ⟨⟨"src/gen.in.cc"⟩, "gen"⟩ (by decide), hbuildFile, hprogram⟩

end Request

end BuildPlan
