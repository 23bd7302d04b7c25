import BuildPlan.Proofs.Plan.Shape
import BuildPlan.Proofs.Run.Emission

/-!
# What the edges of a graph start from

The checks of a manifest and the drafting of its edges go through the same modules and steps, but one
after the other and each in its own way. The checks let a module pass without a source if some step
generates it. This file says that the two agree: whatever an edge reads is there before the build, or
an edge makes it.

* `Outlined.source_cases` — where the source of a module comes from.
* `Outlined.input_cases` — where any input comes from.
* **`inputs_produced_or_present`** — what this means for the graph of a request.
-/

namespace BuildPlan

theorem Action.name_inj {a b : Action} (h : a.name = b.name) : a = b := by
  cases a <;> cases b <;> revert h <;> decide

namespace Request

namespace Outlined

variable {q : Request} {tree : FileTree} {r : Responder} {g : Graph} {flags : ToolchainFlags}
  {program arguments : String}

/-- The source of a module is made by an edge that generates it, or it is a file. -/
theorem source_cases (h : q.Outlined tree r g flags program arguments) {module : String}
    (hmodule : module ∈ q.manifest.modules) :
    (∃ e ∈ g.edges, e.rule = "codegen" ∧ q.manifest.sourceFor module ∈ e.outputs) ∨
      (q.left tree r).isFile (q.root.join (q.manifest.sourceFor module)) = true := by
  rcases Manifest.source_of_validate h.validate_eq hmodule with ⟨step, hstep, rfl⟩ | hfile
  · exact .inl ⟨_, h.generationEdge_mem hstep, rfl, List.mem_cons_self⟩
  · exact .inr hfile

/-- An input of an edge is an output of an edge, or it is a file. -/
theorem input_cases (h : q.Outlined tree r g flags program arguments) {e : Edge} (he : e ∈ g.edges)
    {p : Path} (hp : p ∈ e.inputs) :
    g.Produced p ∨ (q.left tree r).isFile (q.root.join p) = true := by
  rcases h.edge_cases he with ⟨step, hstep, rfl⟩ | ⟨module, hmodule, rfl⟩ | rfl | rfl
  · rw [List.mem_singleton.1 hp]
    exact .inr (Manifest.step_of_validate h.validate_eq hstep).2
  · rw [List.mem_singleton.1 hp]
    rcases h.source_cases hmodule with ⟨made, hmade, -, hout⟩ | hfile
    · exact .inl (Graph.produced_of_mem hmade hout)
    · exact .inr hfile
  · obtain ⟨module, hmodule, rfl⟩ := List.mem_map.1 hp
    exact .inl (Graph.produced_of_mem (h.compileEdge_mem hmodule) List.mem_cons_self)
  · cases hp

end Outlined

/-- **Whatever an edge reads is there or is made.** Every explicit input of every edge is an output of
some edge, or below the root it is a regular file. In particular a module is always compiled from its
source, which an edge generates if it is no file; and what is read by an edge that generates a source is
a file. The files are those that the helper leaves; a helper that only answers leaves them as they
were. -/
theorem inputs_produced_or_present {q : Request} {tree : FileTree} {r : Responder} {g : Graph}
    (h : q.graph tree r = .ok g) :
    (r.LeavesFiles → q.left tree r = tree) ∧
    (∀ e ∈ g.edges, ∀ p ∈ e.inputs,
      g.Produced p ∨ (q.left tree r).isFile (q.root.join p) = true) ∧
    (∀ module ∈ q.manifest.modules,
      { rule := "compile"
        outputs := [q.settings.buildDirectory.join ⟨module ++ ".o"⟩]
        inputs := [q.manifest.sourceFor module] } ∈ g.edges ∧
      ((q.left tree r).isFile (q.root.join (q.manifest.sourceFor module)) = false →
        ∃ e ∈ g.edges, e.rule = "codegen" ∧ q.manifest.sourceFor module ∈ e.outputs)) ∧
    ∀ e ∈ g.edges, e.rule = "codegen" → ∀ p ∈ e.inputs,
      (q.left tree r).isFile (q.root.join p) = true := by
  obtain ⟨flags, program, arguments, houtlined⟩ := graph_outlined h
  refine ⟨fun hr => left_eq_of_leavesFiles hr q tree, ?_, ?_, ?_⟩
  · intro e he p hp
    exact houtlined.input_cases he hp
  · intro module hmodule
    refine ⟨houtlined.compileEdge_mem hmodule, ?_⟩
    intro habsent
    rcases houtlined.source_cases hmodule with hmade | hfile
    · exact hmade
    · rw [habsent] at hfile
      cases hfile
  · intro e he hrule p hp
    rcases houtlined.edge_cases he with ⟨step, hstep, rfl⟩ | ⟨module, -, rfl⟩ | rfl | rfl
    · rw [List.mem_singleton.1 hp]
      exact (Manifest.step_of_validate houtlined.validate_eq hstep).2
    · cases (Action.name_inj hrule : Action.compile = .codegen)
    · cases (Action.name_inj hrule : Action.link = .codegen)
    · cases (Action.name_inj hrule : Action.regenerate = .codegen)

/-- A small project whose sources are listed by way of other directories. -/
def roundabout : Request :=
  { small "build.ninja" with
    manifest :=
      { sourceDirectory := ⟨"src"⟩
        sourceExtension := "cc"
        modules := ["main", "../src//main", "../new/gen"]
        steps := [⟨⟨"src/./gen.in.cc"⟩, "../new/gen"⟩]
        binary := ⟨"app"⟩ } }

theorem inputs_produced_or_present_roundabout :
    ∃ g, roundabout.graph smallTree (.ofReplies []) = .ok g ∧
      (∀ e ∈ g.edges, ∀ p ∈ e.inputs,
        g.Produced p ∨ smallTree.isFile (roundabout.root.join p) = true) ∧
      smallTree.isFile ⟨"./src/../src//main.cc"⟩ = true ∧
      smallTree.isFile ⟨"./src/../new/gen.cc"⟩ = false ∧
      ∃ e ∈ g.edges, e.rule = "codegen" ∧ Path.mk "src/../new/gen.cc" ∈ e.outputs := by
  have hsome : (roundabout.graph smallTree (.ofReplies [])).toOption.isSome = true := by
    decide +kernel
  obtain ⟨g, hgraph⟩ := exists_of_isSome_toOption hsome
  obtain ⟨hleft, hinputs, hmodules, -⟩ := inputs_produced_or_present hgraph
  rw [hleft (Responder.leavesFiles_ofReplies [])] at hinputs hmodules
  exact ⟨g, hgraph, hinputs, by decide, by decide,
    (hmodules "../new/gen" (by decide)).2 (by decide)⟩

end Request

end BuildPlan
