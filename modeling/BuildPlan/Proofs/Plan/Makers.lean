import BuildPlan.Proofs.Path.Spelling
import BuildPlan.Proofs.Plan.Replay
import BuildPlan.Proofs.Plan.Shape

/-!
# Which edges make the build file

No output is made twice in a graph, but that is said of paths as they are spelled: `./app` is not the
path `app`. The check that keeps the build file off the inputs looks past leading dots. So generated
sources never name the build file, whatever the spelling, while an object file or the binary may name
it with a leading dot more or less.

* `source_ne_buildFile` — generated sources are not the build file.
* `Outlined.not_same_artefact` — neither are object files and the binary, as paths of the graph.
* **`makers_of_buildFile`** — so an object file or binary in the place of the build file has a leading
  dot where the build file has none, or the other way round, and if there is none in its place exactly
  one edge makes the build file.
* `two_makers_of_buildFile` — a binary `app` and a build file `./app`.
-/

namespace BuildPlan

namespace Request

/-- What is linked and what it is linked from. -/
def artefacts (q : Request) : List Path :=
  q.manifest.binary :: q.manifest.modules.map (Assembly.objectFor q.settings)

/-- The edge makes the build file, in some spelling below the root. -/
def makesBuildFile (q : Request) (e : Edge) : Bool :=
  e.outputs.any fun p => decide (q.root.under p = q.root.under q.invocation.buildFile)

namespace Outlined

variable {q : Request} {tree : FileTree} {r : Responder} {g : Graph} {flags : ToolchainFlags}
  {program arguments : String}

/-- An output of an edge is a generated source, an object file or the binary, or else it is the build
file. -/
theorem output_cases (h : q.Outlined tree r g flags program arguments) {e : Edge} {p : Path}
    (he : e ∈ g.edges) (hp : p ∈ e.outputs) :
    (∃ step ∈ q.manifest.steps, p = q.manifest.sourceFor step.module) ∨ p ∈ q.artefacts ∨
      p = q.invocation.buildFile := by
  rcases h.edge_cases he with ⟨step, hstep, rfl⟩ | ⟨module, hmodule, rfl⟩ | rfl | rfl
  · exact .inl ⟨step, hstep, List.mem_singleton.1 hp⟩
  · rw [List.mem_singleton.1 hp]
    exact .inr (.inl (List.mem_cons_of_mem _ (List.mem_map_of_mem hmodule)))
  · rw [List.mem_singleton.1 hp]
    exact .inr (.inl List.mem_cons_self)
  · exact .inr (.inr (List.mem_singleton.1 hp))

/-- An object file or the binary is made by some edge, and not by the one that makes the build file. -/
theorem exists_edge_of_artefact (h : q.Outlined tree r g flags program arguments) {p : Path}
    (hp : p ∈ q.artefacts) : ∃ e ∈ g.edges, p ∈ e.outputs ∧ e ≠ q.invocation.edge := by
  rcases List.mem_cons.1 hp with rfl | hp
  · exact ⟨_, h.linkEdge_mem, List.mem_cons_self,
      by simp [Assembly.linkEdge, Invocation.edge, Action.name]⟩
  · obtain ⟨module, hmodule, rfl⟩ := List.mem_map.1 hp
    exact ⟨_, h.compileEdge_mem hmodule, List.mem_cons_self,
      by simp [Assembly.compileEdge, Invocation.edge, Action.name]⟩

/-- An object file or the binary is not the same path as the build file. -/
theorem not_same_artefact (h : q.Outlined tree r g flags program arguments) {p : Path}
    (hp : p ∈ q.artefacts) : ¬ p.Same q.invocation.buildFile := by
  intro hsame
  obtain ⟨e, he, hpe, hne⟩ := h.exists_edge_of_artefact hp
  have hmem : e ∈ g.edges.filter fun e => q.invocation.buildFile.isAmong e.outputs :=
    List.mem_filter.2 ⟨he, Path.isAmong_iff.2 ⟨p, hpe, hsame⟩⟩
  rw [h.filter_edges] at hmem
  exact hne (List.mem_singleton.1 hmem)

end Outlined

variable {q : Request} {tree : FileTree} {r : Responder} {g : Graph}

/-- No generated source is the build file, in any spelling below the root. -/
theorem source_ne_buildFile (h : q.graph tree r = .ok g) {step : GenerationStep}
    (hstep : step ∈ q.manifest.steps) :
    q.root.under (q.manifest.sourceFor step.module) ≠ q.root.under q.invocation.buildFile := by
  have hmodule := (Manifest.step_of_validate (validate_of_graph h) hstep).1
  have hinput : q.manifest.sourceFor step.module ∈ q.manifest.inputs :=
    List.mem_append_left _ (List.mem_map_of_mem hmodule)
  exact under_ne_of_graph h hinput

/-- **Which edges make the build file.** Below the root `.`, no generated source is the build file in
any spelling. An object file or the binary is at most the build file with a leading dot more or less.
Exactly if none of them is the build file, one edge makes it: the one that makes it again. -/
theorem makers_of_buildFile (hroot : q.root = ⟨"."⟩) (h : q.graph tree r = .ok g) :
    (∀ step ∈ q.manifest.steps,
      q.root.under (q.manifest.sourceFor step.module) ≠ q.root.under q.invocation.buildFile) ∧
    (∀ p ∈ q.artefacts, q.root.under p = q.root.under q.invocation.buildFile →
      p.startsHere ≠ q.invocation.buildFile.startsHere) ∧
    ((∀ p ∈ q.artefacts, q.root.under p ≠ q.root.under q.invocation.buildFile) ↔
      g.edges.filter q.makesBuildFile = [q.invocation.edge]) := by
  obtain ⟨flags, program, arguments, houtlined⟩ := graph_outlined h
  refine ⟨fun step hstep => source_ne_buildFile h hstep, ?_, ?_, ?_⟩
  · intro p hp hunder hstart
    rw [hroot, Path.under_here, Path.under_here] at hunder
    exact houtlined.not_same_artefact hp (Path.same_iff.2 ⟨hstart, hunder⟩)
  · intro hapart
    rw [← houtlined.filter_edges]
    refine List.filter_congr ?_
    intro e he
    rw [Bool.eq_iff_iff, makesBuildFile, List.any_eq_true, Path.isAmong_iff]
    constructor
    · rintro ⟨p, hp, hunder⟩
      have hunder := of_decide_eq_true hunder
      rcases houtlined.output_cases he hp with ⟨step, hstep, rfl⟩ | hartefact | rfl
      · exact absurd hunder (source_ne_buildFile h hstep)
      · exact absurd hunder (hapart p hartefact)
      · exact ⟨_, hp, Path.Same.refl _⟩
    · rintro ⟨p, hp, hsame⟩
      refine ⟨p, hp, decide_eq_true ?_⟩
      rw [hroot, Path.under_here, Path.under_here]
      exact (Path.same_iff.1 hsame).2
  · intro hfilter p hp hunder
    obtain ⟨e, he, hpe, hne⟩ := houtlined.exists_edge_of_artefact hp
    have hmem : e ∈ g.edges.filter q.makesBuildFile :=
      List.mem_filter.2 ⟨he, List.any_eq_true.2 ⟨p, hpe, decide_eq_true hunder⟩⟩
    rw [hfilter] at hmem
    exact hne (List.mem_singleton.1 hmem)

theorem makers_of_buildFile_small :
    (small "build.ninja").root = ⟨"."⟩ ∧
      ∃ g, (small "build.ninja").graph smallTree (.ofReplies []) = .ok g ∧
        g.edges.filter (small "build.ninja").makesBuildFile =
          [(small "build.ninja").invocation.edge] := by
  obtain ⟨g, hgraph⟩ := exists_graph_small
  obtain ⟨-, -, hmakers⟩ := makers_of_buildFile rfl hgraph
  exact ⟨rfl, g, hgraph, hmakers.1 (by decide)⟩

/-- A binary and a build file that differ by a leading dot: two edges make the build file. -/
theorem two_makers_of_buildFile :
    (small "./app").root = ⟨"."⟩ ∧
      ∃ g, (small "./app").graph smallTree (.ofReplies []) = .ok g ∧
        g.edges.filter (small "./app").makesBuildFile =
          [Assembly.linkEdge (small "./app").manifest (small "./app").settings,
           (small "./app").invocation.edge] := by
  have hsome : ((small "./app").graph smallTree (.ofReplies [])).toOption.isSome = true := by
    decide +kernel
  obtain ⟨g, hgraph⟩ := exists_of_isSome_toOption hsome
  obtain ⟨flags, program, arguments, houtlined⟩ := graph_outlined hgraph
  refine ⟨rfl, g, hgraph, ?_⟩
  rw [houtlined.edges_eq]
  decide +kernel

end Request

end BuildPlan
