import BuildPlan.Program
import BuildPlan.Files.Layout
import BuildPlan.Proofs.BuildFile.LineBreaks
import BuildPlan.Proofs.CommandLine.Values
import BuildPlan.Proofs.Path.Spelling
import BuildPlan.Proofs.Plan.Replay
import BuildPlan.Proofs.Plan.Shape

/-!
# No command line adds a line to the build file

Paths are written to the build file without a look at their line breaks. The paths in the graph of the
program come from its manifest, from the directory for object files, from the program itself and from the
build file that is asked for. None of them is checked, but a line break in any of them shows up in the
value of a variable as well, and there it is refused:

* the directory is the value of `builddir`;
* the program is the value of `configure`, and quoting keeps its characters;
* the build file is the default one or comes from a word, and all words stand in `configure_args`.

So every build file of the program has the same lines, up to what is on them.

* `Request.Outlined.notMem_paths` — a request whose manifest and build file have no line breaks.
* **`Program.graph_lines`** — what this means for the program.
-/

namespace BuildPlan

open BuildFile (IsBreak)

/-- The texts of a manifest. -/
def Manifest.texts (m : Manifest) : List String :=
  [m.sourceDirectory.text, m.sourceExtension, m.binary.text] ++ m.modules ++
    m.steps.flatMap fun step => [step.template.text, step.module]

namespace Request.Outlined

variable {q : Request} {tree : FileTree} {r : Responder} {g : Graph} {flags : ToolchainFlags}
  {program arguments : String} {c : Char}

/-- What the variables say is free of line breaks: the directory for object files, the program and its
arguments. -/
theorem notMem_variables (h : q.Outlined tree r g flags program arguments) (hc : IsBreak c) :
    c ∉ q.settings.buildDirectory.text.toList ∧ c ∉ q.invocation.program.text.toList ∧
      ∀ word ∈ q.invocation.arguments, c ∉ word.toList := by
  have hvalue := h.finished.notMem_value hc
  rw [h.globals_eq] at hvalue
  have hdirectory := hvalue ⟨"builddir", q.settings.buildDirectory.text⟩ (by simp)
  have hprogram := hvalue ⟨"configure", program⟩ (by simp)
  have harguments := hvalue ⟨"configure_args", arguments⟩ (by simp)
  rw [Invocation.quote_eq_ok h.program_eq, String.toList_ofList] at hprogram
  rw [Invocation.quotedArguments_eq_ok h.arguments_eq, String.toList_ofList] at harguments
  refine ⟨hdirectory, fun hmem => hprogram (Shell.subset_quoted _ hmem), ?_⟩
  intro word hword hmem
  exact harguments (Shell.subset_commandLine hword hmem)

/-- The paths are free of line breaks if the manifest and the build file are. -/
theorem notMem_paths (h : q.Outlined tree r g flags program arguments) (hc : IsBreak c)
    (hmanifest : ∀ s ∈ q.manifest.texts, c ∉ s.toList)
    (hbuildFile : c ∉ q.invocation.buildFile.text.toList) : ∀ p ∈ g.paths, c ∉ p.text.toList := by
  obtain ⟨hdirectory, hprogram, -⟩ := h.notMem_variables hc
  have hslash : c ≠ '/' := hc.ne (by decide)
  have happend : ∀ {a b : String}, c ∉ a.toList → c ∉ b.toList → c ∉ (a ++ b).toList := by
    intro a b ha hb
    rw [String.toList_append, List.mem_append, not_or]
    exact ⟨ha, hb⟩
  rw [Manifest.texts, List.forall_mem_append, List.forall_mem_append] at hmanifest
  obtain ⟨⟨hfields, hmodules⟩, hsteps⟩ := hmanifest
  simp only [List.forall_mem_cons, List.forall_mem_flatMap] at hfields hsteps
  obtain ⟨hsources, hextension, hbinary, -⟩ := hfields
  have hsource : ∀ module : String, c ∉ module.toList →
      c ∉ (q.manifest.sourceFor module).text.toList := by
    intro module hmodule
    have hdot : c ∉ ".".toList := hc.notMem (by decide)
    exact Path.notMem_text_join hslash hsources (happend (happend hmodule hdot) hextension)
  have hobject : ∀ module ∈ q.manifest.modules,
      c ∉ (Assembly.objectFor q.settings module).text.toList := by
    intro module hmodule
    have hending : c ∉ ".o".toList := hc.notMem (by decide)
    exact Path.notMem_text_join hslash hdirectory (happend (hmodules module hmodule) hending)
  rw [Graph.paths, List.forall_mem_append, List.forall_mem_flatMap, h.defaults_eq]
  refine ⟨?_, by simpa using hbinary⟩
  intro e he
  rw [List.forall_mem_append, List.forall_mem_append]
  rcases h.edge_cases he with ⟨step, hstep, rfl⟩ | ⟨module, hmodule, rfl⟩ | rfl | rfl
  · obtain ⟨htemplate, hmodule, -⟩ := hsteps step hstep
    simp [Assembly.generationEdge, hsource _ hmodule, htemplate]
  · simp [Assembly.compileEdge, hobject module hmodule, hsource _ (hmodules module hmodule)]
  · simpa [Assembly.linkEdge, hbinary] using hobject
  · simp [Invocation.edge, hbuildFile, hprogram]

/-- The lines are free of line breaks if the manifest and the build file are. -/
theorem notMem_lines (h : q.Outlined tree r g flags program arguments) (hc : IsBreak c)
    (hmanifest : ∀ s ∈ q.manifest.texts, c ∉ s.toList)
    (hbuildFile : c ∉ q.invocation.buildFile.text.toList) : ∀ l ∈ BuildFile.lines g, c ∉ l := by
  have hvalue := h.finished.notMem_value hc
  have hrules : ∀ r ∈ g.rules, c ∉ r.name.toList ∧
      ∀ t ∈ r.templates, c ∉ Template.spell t.segments := by
    rw [h.rules_eq]
    rcases hc with rfl | rfl
    · decide
    · decide
  refine (BuildFile.forall_lines_iff hc).2 ⟨?_, hrules, ?_, h.notMem_paths hc hmanifest hbuildFile⟩
  · intro v hv
    have hnames : g.globals.map Variable.name =
        ["builddir", "cxx", "cflags", "ldflags", "configure", "configure_args"] := by
      rw [h.globals_eq]
      rfl
    have hname : v.name ∈ g.globals.map Variable.name := List.mem_map_of_mem hv
    rw [hnames] at hname
    have hplain : ∀ name ∈ ["builddir", "cxx", "cflags", "ldflags", "configure", "configure_args"],
        c ∉ String.toList name := by
      rcases hc with rfl | rfl
      · decide
      · decide
    exact ⟨hplain _ hname, hvalue v hv⟩
  · intro e he
    obtain ⟨r, hr, hname⟩ := h.finished.rule_declared e he
    rw [← hname]
    exact (hrules r hr).1

/-- The number of lines is told by the number of steps and modules. -/
theorem length_lines (h : q.Outlined tree r g flags program arguments) :
    (BuildFile.lines g).length = 31 + 2 * (q.manifest.steps.length + q.manifest.modules.length) := by
  have hvariables : (BuildFile.variableLines g.globals).length = 7 := by
    rw [h.globals_eq]
    rfl
  have hrules : (g.rules.flatMap BuildFile.ruleLines).length = 19 := by
    rw [h.rules_eq]
    decide
  have hedges : (g.edges.flatMap BuildFile.edgeLines).length = g.edges.length * 2 := by
    simp [List.length_flatMap, BuildFile.edgeLines]
  have hcount : g.edges.length = q.manifest.steps.length + q.manifest.modules.length + 2 := by
    rw [h.edges_eq, Assembly.edges]
    simp
    omega
  have hdefaults : (BuildFile.defaultLines g.defaults).length = 1 := by
    rw [h.defaults_eq]
    rfl
  rw [BuildFile.lines, List.length_append, List.length_append, List.length_append, hvariables, hrules,
    hedges, hcount, hdefaults]
  omega

end Request.Outlined

namespace Program

variable {s : Start} {c : CommandLine} {r : Responder} {g : Graph}

/-- A line break in the path of the build file stands in a word as well. -/
theorem notMem_output (hread : CommandLine.read s.words = .ok c) {b : Char} (hb : IsBreak b)
    (hwords : ∀ w ∈ s.words, b ∉ w.text.toList) : b ∉ c.output.text.toList := by
  rcases CommandLine.value_drawn hread .output with hdefault | hdrawn
  · have hname : c.output.text = "build.ninja" := hdefault
    rw [hname]
    exact hb.notMem (by decide)
  · intro hmem
    obtain ⟨w, hw, hbreak⟩ := hdrawn b hmem
    exact hwords w hw hbreak

/-- **No command line adds a line to the build file.** Whatever the words, the path of the program and
the answers of the helper are: if the command line is accepted and there is a graph, then no value of a
variable, no path of an edge and no default target holds a line feed or a carriage return. So the text
falls into its lines, and there are always 45 of them. -/
theorem graph_lines (hread : CommandLine.read s.words = .ok c)
    (h : (request s c).graph s.tree r = .ok g) :
    (∀ b ∈ ['\n', '\r'],
      (∀ v ∈ g.globals, b ∉ v.value.toList) ∧
      (∀ e ∈ g.edges, ∀ p ∈ e.outputs ++ e.inputs ++ e.implicitInputs, b ∉ p.text.toList) ∧
      ∀ p ∈ g.defaults, b ∉ p.text.toList) ∧
    (BuildFile.text g).toList.splitOn '\n' = BuildFile.lines g ++ [[]] ∧
    '\r' ∉ (BuildFile.text g).toList ∧ (BuildFile.lines g).length = 45 := by
  obtain ⟨flags, program, arguments, houtlined⟩ := Request.graph_outlined h
  have hmanifest : ∀ b, IsBreak b → ∀ t ∈ Manifest.neatc.texts, b ∉ t.toList := by
    rintro b (rfl | rfl)
    · decide
    · decide
  have houtput : ∀ b, IsBreak b → b ∉ c.output.text.toList := by
    intro b hb
    refine notMem_output hread hb ?_
    intro w hw
    exact (houtlined.notMem_variables hb).2.2 w.text (List.mem_map_of_mem hw)
  have hlines : ∀ b, IsBreak b → ∀ l ∈ BuildFile.lines g, b ∉ l :=
    fun b hb => houtlined.notMem_lines hb (hmanifest b hb) (houtput b hb)
  refine ⟨?_, ?_, BuildFile.return_notMem_text_iff.2 (hlines '\r' (.inr rfl)), houtlined.length_lines⟩
  · intro b hmem
    have hb : IsBreak b := by simpa [IsBreak] using hmem
    have hpaths := houtlined.notMem_paths hb (hmanifest b hb) (houtput b hb)
    rw [Graph.paths, List.forall_mem_append, List.forall_mem_flatMap] at hpaths
    exact ⟨houtlined.finished.notMem_value hb, hpaths.1, hpaths.2⟩
  · rw [BuildFile.text, String.toList_ofList, BuildFile.splitOn_joined_iff]
    exact hlines '\n' (.inl rfl)

/-- A command line with spaces and signs in its words, in a project with a helper. -/
def crowded : Start where
  words := ["--output=out dir/β.ninja", "-v", "--builddir", "$obj", "--", "x'y", ""].map Word.ofText
  path := some (Utf8.encode "/bin")
  workingDirectory := ⟨"/"⟩
  executable := ⟨"/my tools/configure"⟩
  tree := FileTree.layOut []
    ([(⟨"bin/llvm-config"⟩, .file [] 0o755), (⟨"src/lexer.in.cc"⟩, .file [] 0o644)] ++
      ["neatc", "ast", "parse", "scope", "util"].map fun module =>
        (⟨"src/" ++ module ++ ".cc"⟩, .file [] 0o644))

/-- How the words of `crowded` are read. -/
def crowdedLine : CommandLine where
  output := ⟨"out dir/β.ninja"⟩
  verbose := true
  settings := { buildDirectory := ⟨"$obj"⟩ }
  passthrough := ["x'y", ""]

theorem graph_lines_crowded :
    ∃ g, CommandLine.read crowded.words = .ok crowdedLine ∧
      (request crowded crowdedLine).graph crowded.tree (.ofReplies [.ok " -I/a\n-I/b\r\n"]) = .ok g ∧
      (BuildFile.text g).toList.splitOn '\n' = BuildFile.lines g ++ [[]] ∧
      (BuildFile.lines g).length = 45 := by
  have hread : (CommandLine.read crowded.words).toOption = some crowdedLine := by
    decide +kernel
  have hsome : ((request crowded crowdedLine).graph crowded.tree
      (.ofReplies [.ok " -I/a\n-I/b\r\n"])).toOption.isSome = true := by
    decide +kernel
  obtain ⟨g, hgraph⟩ := exists_of_isSome_toOption hsome
  have hline := eq_ok_of_toOption_eq_some hread
  obtain ⟨-, hsplit, -, hlength⟩ := graph_lines hline hgraph
  exact ⟨g, hline, hgraph, hsplit, hlength⟩

end Program

end BuildPlan
