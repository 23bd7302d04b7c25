import BuildPlan.Proofs.Draft.Consistency
import BuildPlan.Proofs.Outcome
import BuildPlan.Run

/-!
# What the graph of a request is made of

The graph of a request is drafted in one go: every declaration has to be accepted. So where there is a
graph, it is what all these declarations describe, in order.

* `StandardRules.standard` — the four standard rules, spelled out; `read_eq_standard` says that this is
  what reading them gives.
* `Request.outline` — all declarations of a request, once the flags are known and the program and its
  arguments are written for the shell.
* `Request.Outlined` — what holds of the graph of a request: every stage before it succeeded, and the
  graph is finished from the draft of exactly those declarations.
* **`graph_outlined`** — it holds of every graph of a request.
* `globals_outline`, `rules_outline`, `edges_outline`, `defaults_outline` — the parts of what the outline
  describes, spelled out; `Outlined.globals_eq`, `rules_eq`, `edges_eq` — the same of the graph.
* `Request.small` — a small project, for the examples here and elsewhere.
-/

namespace BuildPlan

namespace StandardRules

/-- The four standard rules. -/
def standard : StandardRules where
  compile :=
    { name := "compile"
      command := ⟨[.variable "cxx", .literal " -MMD -MF ", .variable "out", .literal ".d ",
        .variable "cflags", .literal " -c ", .variable "in", .literal " -o ", .variable "out"]⟩
      description := some ⟨[.literal "cxx ", .variable "in"]⟩
      depfile := some ⟨[.variable "out", .literal ".d"]⟩
      deps := some .gcc }
  link :=
    { name := "link"
      command := ⟨[.variable "cxx", .literal " ", .variable "in", .literal " ",
        .variable "ldflags", .literal " -o ", .variable "out"]⟩
      description := some ⟨[.literal "link ", .variable "out"]⟩ }
  codegen :=
    { name := "codegen"
      command := ⟨[.literal "re2c -b -i --no-generation-date -o ", .variable "out", .literal " ",
        .variable "in"]⟩
      description := some ⟨[.literal "re2c ", .variable "out"]⟩ }
  regenerate :=
    { name := "regenerate"
      command := ⟨[.variable "configure", .literal " ", .variable "configure_args"]⟩
      description := some ⟨[.literal "configure ", .variable "configure_args"]⟩
      generator := true }

/-- **Reading the standard rules succeeds**, with these rules. -/
theorem read_eq_standard : read = .ok standard := by
  decide +kernel

end StandardRules

namespace Request

/-- All declarations of a request, with the flags of the helper and the program and its arguments
written for the shell. -/
def outline (q : Request) (flags : ToolchainFlags) (program arguments : String) :
    List Declaration :=
  Assembly.declarations .standard flags q.manifest q.settings ++
    [.variable Invocation.programVariable program,
     .variable Invocation.argumentsVariable arguments,
     .rule StandardRules.standard.regenerate,
     .edge q.invocation.edge]

/-- What holds of the graph of a request. -/
structure Outlined (q : Request) (tree : FileTree) (r : Responder) (g : Graph)
    (flags : ToolchainFlags) (program arguments : String) : Prop where
  /-- The helper gave the flags. -/
  probed_eq : (q.probed tree r).1 = .ok flags
  /-- The manifest passed its checks. -/
  check_eq : q.check (q.probed tree r).2 = .ok ()
  /-- The program was written for the shell. -/
  program_eq : q.invocation.quotedProgram = .ok program
  /-- The arguments were written for the shell. -/
  arguments_eq : q.invocation.quotedArguments = .ok arguments
  /-- Every declaration was accepted. -/
  accepted_eq : Draft.accepted {} (q.outline flags program arguments) =
    q.outline flags program arguments
  /-- The draft was finished. -/
  finish_eq : (Draft.submitAll {} (q.outline flags program arguments)).finish = .ok g

/-- If no declaration of a request is at fault, they are the outline. -/
theorem declarations_eq_map_ok {q : Request} {flags : ToolchainFlags} {xs : List Declaration}
    (h : q.declarations .standard flags = xs.map .ok) :
    ∃ program arguments, q.invocation.quotedProgram = .ok program ∧
      q.invocation.quotedArguments = .ok arguments ∧ xs = q.outline flags program arguments := by
  have hlast : ∀ y ∈ q.invocation.declarations .standard, ∃ x, y = .ok x := by
    intro y hy
    have hmem : y ∈ xs.map Except.ok := by
      rw [← h, declarations]
      exact List.mem_append_right _ hy
    obtain ⟨x, -, hx⟩ := List.mem_map.1 hmem
    exact ⟨x, hx.symm⟩
  obtain ⟨x, hx⟩ := hlast (q.invocation.quotedProgram.map _) List.mem_cons_self
  obtain ⟨program, hprogram, -⟩ := exists_of_map_eq_ok hx
  obtain ⟨y, hy⟩ := hlast (q.invocation.quotedArguments.map _)
    (List.mem_cons_of_mem _ List.mem_cons_self)
  obtain ⟨arguments, harguments, -⟩ := exists_of_map_eq_ok hy
  refine ⟨program, arguments, hprogram, harguments, ?_⟩
  have hall : q.declarations .standard flags = (q.outline flags program arguments).map .ok := by
    rw [declarations, Invocation.declarations, hprogram, harguments, outline, List.map_append]
    rfl
  rw [h] at hall
  exact (List.map_inj_right fun _ _ heq => Except.ok.inj heq).1 hall

/-- If the declarations of a request are all made, they are the outline, and each of them was accepted. -/
theorem exists_outline_of_perform {q : Request} {flags : ToolchainFlags} {draft : Draft}
    (h : ({} : Draft).perform (q.declarations .standard flags) = (draft, none)) :
    ∃ program arguments, q.invocation.quotedProgram = .ok program ∧
      q.invocation.quotedArguments = .ok arguments ∧
      Draft.accepted {} (q.outline flags program arguments) = q.outline flags program arguments ∧
      draft = Draft.submitAll {} (q.outline flags program arguments) := by
  obtain ⟨xs, hdraft, haccepted, hall⟩ :=
    Draft.perform_eq {} (q.declarations .standard flags)
  rw [h] at hdraft hall
  obtain ⟨program, arguments, hprogram, harguments, rfl⟩ := declarations_eq_map_ok (hall rfl)
  exact ⟨program, arguments, hprogram, harguments, haccepted, hdraft⟩

/-- A graph is drafted from the outline of the request. -/
theorem drafted_eq_ok {q : Request} {flags : ToolchainFlags} {g : Graph}
    (h : q.drafted flags = .ok g) :
    ∃ program arguments, q.invocation.quotedProgram = .ok program ∧
      q.invocation.quotedArguments = .ok arguments ∧
      Draft.accepted {} (q.outline flags program arguments) = q.outline flags program arguments ∧
      (Draft.submitAll {} (q.outline flags program arguments)).finish = .ok g := by
  obtain ⟨rules, hrules, h⟩ := exists_of_bind_eq_ok h
  rw [StandardRules.read_eq_standard] at hrules
  cases hrules
  split at h
  · cases h
  · rename_i draft hperform
    obtain ⟨program, arguments, hprogram, harguments, haccepted, rfl⟩ := exists_outline_of_perform hperform
    exact ⟨program, arguments, hprogram, harguments, haccepted, h⟩

/-- **Where a request has a graph, every stage before it succeeded**, and the graph was finished from
the draft of its declarations. -/
theorem graph_outlined {q : Request} {tree : FileTree} {r : Responder} {g : Graph}
    (h : q.graph tree r = .ok g) :
    ∃ flags program arguments, q.Outlined tree r g flags program arguments := by
  obtain ⟨flags, hflags, h⟩ := exists_of_bind_eq_ok h
  obtain ⟨_, hcheck, h⟩ := exists_of_bind_eq_ok (eq_ok_of_mapError_eq_ok h)
  obtain ⟨program, arguments, hprogram, harguments, haccepted, hfinish⟩ := drafted_eq_ok h
  exact ⟨flags, program, arguments, hflags, hcheck, hprogram, harguments, haccepted, hfinish⟩

/-- What is not read off edges is not found in them. -/
theorem filterMap_edges_eq_nil {α : Type} {f : Declaration → Option α}
    (h : ∀ e, f (.edge e) = none) (es : List Edge) : (es.map Declaration.edge).filterMap f = [] := by
  rw [List.filterMap_map]
  exact List.filterMap_eq_nil_iff.2 fun e _ => h e

/-- The edges among the declarations of a plan. -/
theorem filterMap_edge?_assembly (rules : StandardRules) (flags : ToolchainFlags) (m : Manifest)
    (settings : Settings) :
    (Assembly.declarations rules flags m settings).filterMap Declaration.edge? =
      Assembly.edges m settings := by
  have hedges : ((Assembly.edges m settings).map Declaration.edge).filterMap Declaration.edge? =
      Assembly.edges m settings := by
    rw [List.filterMap_map]
    exact List.filterMap_some
  have hdefault : [Declaration.default m.binary].filterMap Declaration.edge? = [] := rfl
  rw [Assembly.declarations]
  simp only [List.filterMap_append, hedges, hdefault, List.append_nil]
  rfl

section

variable (q : Request) (flags : ToolchainFlags) (program arguments : String)

theorem globals_outline :
    (Graph.ofDeclarations (q.outline flags program arguments)).globals =
      [⟨"builddir", q.settings.buildDirectory.text⟩, ⟨"cxx", q.settings.compiler⟩,
       ⟨"cflags", Assembly.joinFlags Assembly.standardFlag flags.compile⟩,
       ⟨"ldflags", Assembly.joinFlags flags.link flags.libraries⟩,
       ⟨"configure", program⟩, ⟨"configure_args", arguments⟩] := by
  have hedges := filterMap_edges_eq_nil (f := Declaration.global?) (fun _ => rfl)
    (Assembly.edges q.manifest q.settings)
  rw [Graph.ofDeclarations, outline, Assembly.declarations]
  simp only [List.filterMap_append, hedges]
  rfl

theorem rules_outline :
    (Graph.ofDeclarations (q.outline flags program arguments)).rules =
      [StandardRules.standard.compile, StandardRules.standard.link,
        StandardRules.standard.codegen, StandardRules.standard.regenerate] := by
  have hedges := filterMap_edges_eq_nil (f := Declaration.rule?) (fun _ => rfl)
    (Assembly.edges q.manifest q.settings)
  rw [Graph.ofDeclarations, outline, Assembly.declarations]
  simp only [List.filterMap_append, hedges]
  rfl

/-- The edges of the plan, and last the edge that makes the build file again. -/
theorem edges_outline :
    (Graph.ofDeclarations (q.outline flags program arguments)).edges =
      Assembly.edges q.manifest q.settings ++ [q.invocation.edge] := by
  rw [Graph.ofDeclarations, outline]
  simp only [List.filterMap_append, filterMap_edge?_assembly]
  rfl

theorem defaults_outline :
    (Graph.ofDeclarations (q.outline flags program arguments)).defaults = [q.manifest.binary] := by
  have hedges := filterMap_edges_eq_nil (f := Declaration.target?) (fun _ => rfl)
    (Assembly.edges q.manifest q.settings)
  rw [Graph.ofDeclarations, outline, Assembly.declarations]
  simp only [List.filterMap_append, hedges]
  rfl

end

namespace Outlined

variable {q : Request} {tree : FileTree} {r : Responder} {g : Graph} {flags : ToolchainFlags}
  {program arguments : String}

/-- The graph is what the declarations describe. -/
theorem graph_eq (h : q.Outlined tree r g flags program arguments) :
    g = Graph.ofDeclarations (q.outline flags program arguments) := by
  rw [Draft.eq_graph_of_finish h.finish_eq, Draft.graph_submitAll, h.accepted_eq]

theorem finished (h : q.Outlined tree r g flags program arguments) : g.Finished :=
  Graph.finished_of_submitAll h.finish_eq

theorem globals_eq (h : q.Outlined tree r g flags program arguments) :
    g.globals =
      [⟨"builddir", q.settings.buildDirectory.text⟩, ⟨"cxx", q.settings.compiler⟩,
       ⟨"cflags", Assembly.joinFlags Assembly.standardFlag flags.compile⟩,
       ⟨"ldflags", Assembly.joinFlags flags.link flags.libraries⟩,
       ⟨"configure", program⟩, ⟨"configure_args", arguments⟩] := by
  rw [h.graph_eq, globals_outline]

theorem rules_eq (h : q.Outlined tree r g flags program arguments) :
    g.rules = [StandardRules.standard.compile, StandardRules.standard.link,
      StandardRules.standard.codegen, StandardRules.standard.regenerate] := by
  rw [h.graph_eq, rules_outline]

theorem edges_eq (h : q.Outlined tree r g flags program arguments) :
    g.edges = Assembly.edges q.manifest q.settings ++ [q.invocation.edge] := by
  rw [h.graph_eq, edges_outline]

end Outlined

/-! ### A small project, for the examples -/

/-- A request for a project of two modules, one of them generated. -/
def small (buildFile : String) : Request where
  search := ⟨[⟨"/bin"⟩]⟩
  manifest :=
    { sourceDirectory := ⟨"src"⟩
      sourceExtension := "cc"
      modules := ["main", "gen"]
      steps := [⟨⟨"src/gen.in.cc"⟩, "gen"⟩]
      binary := ⟨"app"⟩ }
  settings := {}
  invocation := { program := ⟨"/configure"⟩, arguments := [], buildFile := ⟨buildFile⟩ }
  root := ⟨"."⟩

/-- The files of that project, with the helper. -/
def smallTree : FileTree where
  entries :=
    [(["bin"], .directory), (["llvm-config", "bin"], .file [] 0o755), (["src"], .directory),
     (["main.cc", "src"], .file [105, 110, 116] 0o600), (["gen.in.cc", "src"], .file [] 0o644)]

theorem exists_graph_small : ∃ g, (small "build.ninja").graph smallTree (.ofReplies []) = .ok g := by
  have hsome : ((small "build.ninja").graph smallTree (.ofReplies [])).toOption.isSome = true := by
    decide +kernel
  exact exists_of_isSome_toOption hsome

end Request

end BuildPlan
