import BuildPlan.Proofs.Plan.Outline

/-!
# What the checks of a manifest say

A manifest is checked before a graph is drafted from it. Later results need single facts from these
checks, which are collected here.

* `Manifest.validate_eq_ok_iff` — what it takes for a manifest to pass; `step_of_validate` and
  `source_of_validate` take this apart.
* `Manifest.validate_mono` — a manifest passes on all files that have the files it has passed on.
* `Manifest.under_ne_of_checkBuildFile` — the build file is none of the inputs, below the root.
* `Request.validate_of_graph`, `Request.under_ne_of_graph` — the same where a request has a graph.
-/

namespace BuildPlan

namespace Manifest

variable {m : Manifest} {tree : FileTree} {root : Path}

theorem stepFault?_eq_none_iff {step : GenerationStep} :
    m.stepFault? tree root step = none ↔
      step.module ∈ m.modules ∧ tree.isFile (root.join step.template) = true := by
  rw [stepFault?, ← List.contains_iff_mem]
  cases m.modules.contains step.module with
  | false => simp
  | true =>
    cases tree.isFile (root.join step.template) with
    | false => simp
    | true => simp

theorem sourceFault?_eq_none_iff {module : String} :
    m.sourceFault? tree root module = none ↔
      (∃ step ∈ m.steps, step.module = module) ∨
        tree.isFile (root.join (m.sourceFor module)) = true := by
  have hgenerated : (m.generatedBy? module).isSome = true ↔ ∃ step ∈ m.steps, step.module = module := by
    rw [generatedBy?, List.find?_isSome]
    simp only [decide_eq_true_eq]
  rw [sourceFault?, ← hgenerated]
  cases (m.generatedBy? module).isSome with
  | true => simp
  | false =>
    cases tree.isFile (root.join (m.sourceFor module)) with
    | false => simp
    | true => simp

/-- **What it takes for a manifest to pass**: no module is listed twice, every step belongs to a listed
module and has its template, and every module is generated or has its source. -/
theorem validate_eq_ok_iff :
    m.validate tree root = .ok () ↔
      repeated? [] m.modules = none ∧
      (∀ step ∈ m.steps,
        step.module ∈ m.modules ∧ tree.isFile (root.join step.template) = true) ∧
      ∀ module ∈ m.modules, (∃ step ∈ m.steps, step.module = module) ∨
        tree.isFile (root.join (m.sourceFor module)) = true := by
  have hfault : m.validate tree root = .ok () ↔ m.fault? tree root = none := by
    rw [validate]
    cases m.fault? tree root with
    | none => exact ⟨fun _ => rfl, fun _ => rfl⟩
    | some fault => exact ⟨fun h => (nomatch h), fun h => (nomatch h)⟩
  rw [hfault, fault?, Option.or_eq_none_iff, Option.or_eq_none_iff, Option.map_eq_none_iff,
    List.findSome?_eq_none_iff, List.findSome?_eq_none_iff]
  simp only [stepFault?_eq_none_iff, sourceFault?_eq_none_iff]

/-- A generation step belongs to a listed module, and its template is a file. -/
theorem step_of_validate (h : m.validate tree root = .ok ()) {step : GenerationStep}
    (hstep : step ∈ m.steps) :
    step.module ∈ m.modules ∧ tree.isFile (root.join step.template) = true :=
  (validate_eq_ok_iff.1 h).2.1 step hstep

/-- A module is generated by some step, or its source is a file. -/
theorem source_of_validate (h : m.validate tree root = .ok ()) {module : String}
    (hmodule : module ∈ m.modules) :
    (∃ step ∈ m.steps, step.module = module) ∨ tree.isFile (root.join (m.sourceFor module)) = true :=
  (validate_eq_ok_iff.1 h).2.2 module hmodule

/-- A manifest that passes on some files passes on others as well if no file is gone. -/
theorem validate_mono {after : FileTree} (hfiles : ∀ p, tree.isFile p = true → after.isFile p = true)
    (h : m.validate tree root = .ok ()) : m.validate after root = .ok () := by
  obtain ⟨hrepeated, hsteps, hsources⟩ := validate_eq_ok_iff.1 h
  refine validate_eq_ok_iff.2 ⟨hrepeated, ?_, ?_⟩
  · intro step hstep
    obtain ⟨hlisted, htemplate⟩ := hsteps step hstep
    exact ⟨hlisted, hfiles _ htemplate⟩
  · intro module hmodule
    rcases hsources module hmodule with hgenerated | hsource
    · exact .inl hgenerated
    · exact .inr (hfiles _ hsource)

/-- A build file that passes the check differs from every input, below the root. -/
theorem under_ne_of_checkBuildFile {buildFile input : Path}
    (h : m.checkBuildFile root buildFile = .ok ()) (hinput : input ∈ m.inputs) :
    root.under input ≠ root.under buildFile := by
  rw [checkBuildFile] at h
  split at h
  · cases h
  · rename_i hnone
    have hne := List.find?_eq_none.1 hnone input hinput
    simpa using hne

end Manifest

namespace Request

variable {q : Request} {tree : FileTree} {r : Responder} {g : Graph}

/-- The manifest has passed its checks, on the files as the helper leaves them. -/
theorem Outlined.validate_eq {flags : ToolchainFlags} {program arguments : String}
    (h : q.Outlined tree r g flags program arguments) :
    q.manifest.validate (q.probed tree r).2 q.root = .ok () := by
  obtain ⟨_, hvalidate, -⟩ := exists_of_bind_eq_ok h.check_eq
  exact hvalidate

/-- Where there is a graph, the manifest has passed its checks. -/
theorem validate_of_graph (h : q.graph tree r = .ok g) :
    q.manifest.validate (q.probed tree r).2 q.root = .ok () := by
  obtain ⟨flags, program, arguments, houtlined⟩ := graph_outlined h
  exact houtlined.validate_eq

/-- Where there is a graph, the build file is none of the inputs, below the root. -/
theorem under_ne_of_graph (h : q.graph tree r = .ok g) {input : Path}
    (hinput : input ∈ q.manifest.inputs) :
    q.root.under input ≠ q.root.under q.invocation.buildFile := by
  obtain ⟨flags, program, arguments, houtlined⟩ := graph_outlined h
  obtain ⟨_, -, hcheck⟩ := exists_of_bind_eq_ok houtlined.check_eq
  exact Manifest.under_ne_of_checkBuildFile hcheck hinput

end Request

end BuildPlan
