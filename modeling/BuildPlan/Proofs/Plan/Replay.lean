import BuildPlan.Proofs.BuildFile.Lines
import BuildPlan.Proofs.Plan.Outline
import BuildPlan.Proofs.Plan.Quoting

/-!
# The build file says how it was made

A build file binds two variables, one to the program that wrote it and one to the arguments that the
program was called with, and it has an edge that makes the file again with the command `$configure
$configure_args`. This file shows that the command calls the program with those very arguments.

Three encodings lie on top of each other: each word is quoted for the shell, the words are joined with
spaces, and the whole is escaped for the build file. They are undone in turn: `BuildFile.valueOf?` takes
the values from the text, `Template.fill` puts them into the command, and `Shell.words?` cuts the command
into words.

* `Template.fill` — the text of a template with values for its variables.
* `Request.Outlined.filter_edges` — exactly one edge makes the build file.
* **`Request.replay_generate`** — the words of the command are the program and its arguments.
-/

namespace BuildPlan

namespace Template

/-- The text of segments with values for the variables, if all have one. -/
def fillSegments (value? : String → Option String) : List Segment → Option (List Char)
  | [] => some []
  | .literal text :: rest => (fillSegments value? rest).map (text.toList ++ ·)
  | .variable name :: rest =>
    (value? name).bind fun value => (fillSegments value? rest).map (value.toList ++ ·)

/-- The text of a template with values for the variables, if all have one. -/
def fill (t : Template) (value? : String → Option String) : Option String :=
  (fillSegments value? t.segments).map String.ofList

end Template

namespace Request

namespace Outlined

variable {q : Request} {tree : FileTree} {r : Responder} {g : Graph} {flags : ToolchainFlags}
  {program arguments : String}

/-- Exactly one edge makes the build file, and it is the regeneration edge. -/
theorem filter_edges (h : q.Outlined tree r g flags program arguments) :
    g.edges.filter (fun e => q.invocation.buildFile.isAmong e.outputs) = [q.invocation.edge] := by
  obtain ⟨d, hd, -, rfl⟩ := h.finished.exists_consistent
  have hedge : q.invocation.edge ∈ d.graph.edges := by
    rw [h.edges_eq]
    exact List.mem_append_right _ List.mem_cons_self
  exact hd.filter_isAmong hedge (Path.isAmong_of_mem List.mem_cons_self)

theorem rule?_regenerate (h : q.Outlined tree r g flags program arguments) :
    g.rule? q.invocation.edge.rule = some StandardRules.standard.regenerate := by
  rw [Graph.rule?, h.rules_eq]
  rfl

/-- Every variable has its value in the build file. -/
theorem valueOf?_text (h : q.Outlined tree r g flags program arguments) {v : Variable}
    (hv : v ∈ g.globals) : BuildFile.valueOf? (BuildFile.text g) v.name = some v.value := by
  obtain ⟨d, hd, -, rfl⟩ := h.finished.exists_consistent
  have hnames : ∀ v ∈ d.graph.globals, ' ' ∉ v.name.toList ∧ '\n' ∉ v.name.toList := by
    have hsix : ∀ name ∈ ["builddir", "cxx", "cflags", "ldflags", "configure", "configure_args"],
        ' ' ∉ String.toList name ∧ '\n' ∉ String.toList name := by decide
    intro v hv
    have hname : v.name ∈ d.graph.globals.map Variable.name := List.mem_map_of_mem hv
    rw [h.globals_eq] at hname
    exact hsix v.name hname
  exact BuildFile.valueOf?_text hnames hd.globals_nodup
    (fun v hv => (hd.value_singleLine v hv).1) hv

/-- The command that makes the build file again. -/
theorem fill_regenerate (h : q.Outlined tree r g flags program arguments) :
    StandardRules.standard.regenerate.command.fill (BuildFile.valueOf? (BuildFile.text g)) =
      some (program ++ " " ++ arguments) := by
  have hprogram : BuildFile.valueOf? (BuildFile.text g) "configure" = some program :=
    h.valueOf?_text (v := ⟨"configure", program⟩) (by rw [h.globals_eq]; simp)
  have harguments : BuildFile.valueOf? (BuildFile.text g) "configure_args" = some arguments :=
    h.valueOf?_text (v := ⟨"configure_args", arguments⟩) (by rw [h.globals_eq]; simp)
  rw [Template.fill]
  simp only [StandardRules.standard, Template.fillSegments, hprogram, harguments, Option.bind_some,
    Option.map_some]
  refine congrArg some ?_
  rw [← String.toList_inj]
  simp

end Outlined

/-- **The build file says how it was made.** Exactly one edge of the graph makes the build file. Its
command mentions the two variables of the regeneration step and no others, and with their values taken
from the text it is read by a shell as the program and its arguments, word for word. -/
theorem replay_generate {q : Request} {tree : FileTree} {r : Responder} {text : String}
    (h : q.generate tree r = .ok text) :
    ∃ g e rule command,
      q.graph tree r = .ok g ∧
      g.edges.filter (fun e => q.invocation.buildFile.isAmong e.outputs) = [e] ∧
      g.rule? e.rule = some rule ∧
      rule.command.placeholders = ["configure", "configure_args"] ∧
      rule.command.fill (BuildFile.valueOf? text) = some command ∧
      Shell.words? command = some (q.invocation.program.text :: q.invocation.arguments) := by
  obtain ⟨g, hgraph, rfl⟩ := exists_of_map_eq_ok h
  obtain ⟨flags, program, arguments, houtlined⟩ := graph_outlined hgraph
  refine ⟨g, _, _, _, hgraph, houtlined.filter_edges, houtlined.rule?_regenerate, rfl,
    houtlined.fill_regenerate, ?_⟩
  have hcommand : program ++ " " ++ arguments =
      String.ofList (Shell.quoted q.invocation.program.text.toList ++
        ' ' :: Shell.commandLine q.invocation.arguments) := by
    rw [Invocation.quote_eq_ok houtlined.program_eq,
      Invocation.quotedArguments_eq_ok houtlined.arguments_eq, ← String.toList_inj]
    simp
  rw [hcommand, Shell.words?_quoted_commandLine]

/-- A request whose program and arguments are full of special characters. -/
def awkward : Request where
  search := ⟨[⟨"/bin"⟩]⟩
  manifest :=
    { sourceDirectory := ⟨"src"⟩
      sourceExtension := "cc"
      modules := ["main"]
      steps := []
      binary := ⟨"app"⟩ }
  settings := {}
  invocation :=
    { program := ⟨"./my $prog"⟩
      arguments := ["", "it's", "$x ^y", "a\\b\"c", "é!", "configure = "]
      buildFile := ⟨"build.ninja"⟩ }
  root := ⟨"."⟩

/-- The files of that request. -/
def awkwardTree : FileTree where
  entries :=
    [(["bin"], .directory), (["llvm-config", "bin"], .file [] 0o755), (["src"], .directory),
     (["main.cc", "src"], .file [] 0o644)]

theorem replay_generate_awkward :
    ∃ text, awkward.generate awkwardTree (.ofReplies []) = .ok text ∧
      ∃ (rule : Rule) (command : String),
        rule.command.fill (BuildFile.valueOf? text) = some command ∧
        Shell.words? command =
          some ["./my $prog", "", "it's", "$x ^y", "a\\b\"c", "é!", "configure = "] := by
  have hsome : (awkward.generate awkwardTree (.ofReplies [])).toOption.isSome = true := by
    decide +kernel
  obtain ⟨text, hgenerate⟩ := exists_of_isSome_toOption hsome
  obtain ⟨g, e, rule, command, -, -, -, -, hfill, hwords⟩ := replay_generate hgenerate
  exact ⟨text, hgenerate, rule, command, hfill, hwords⟩

end Request

end BuildPlan
