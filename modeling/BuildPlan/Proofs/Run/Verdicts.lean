import BuildPlan.Proofs.Draft.Scope
import BuildPlan.Proofs.Plan.Faults
import BuildPlan.Proofs.Plan.Quoting
import BuildPlan.Proofs.Run.Answers

/-!
# What can be wrong with the plan of a request

A draft has many reasons to refuse a declaration, but a request makes its declarations itself, with names of
its own. It declares every name once and every rule before the edges that use it, binds all that its rules
mention, and asks by default for the binary that it links. What is left to go wrong comes from outside: the
files, the paths and the texts that a request is made with.

* `Request.texts`, `Request.edges`, `Request.outputs` — what a request puts into its variables, its edges, and
  what these make.
* `Request.PlanFault` — what can be wrong with a plan, each fault with what is at fault in the request.
* `allows_declarations` — nothing is wrong with the names that a request declares.
* `exists_text_of_multiline` — where a value of many lines comes from.
* `allBound_outline`, `allProduced_outline` — nothing is unbound, and what is asked for is made.
* **`faults_of_graph`** — all that a request can be refused for.
-/

namespace BuildPlan

/-! ### Lines of quoted words -/

theorem Draft.isMultiline_iff {value : String} :
    isMultiline value = true ↔ ∃ c ∈ value.toList, c = '\n' ∨ c = '\r' := by
  rw [isMultiline, List.any_eq_true]
  simp only [Bool.or_eq_true, decide_eq_true_eq]

namespace Shell

/-- Quoting breaks no line. -/
theorem isMultiline_of_quoted {word : String}
    (h : Draft.isMultiline (String.ofList (quoted word.toList)) = true) : Draft.isMultiline word = true := by
  rw [Draft.isMultiline_iff, String.toList_ofList] at h
  obtain ⟨c, hc, hbreak⟩ := h
  refine Draft.isMultiline_iff.2 ⟨c, mem_of_mem_quoted hc ?_, hbreak⟩
  rcases hbreak with rfl | rfl <;> decide

theorem exists_of_isMultiline_commandLine {words : List String}
    (h : Draft.isMultiline (String.ofList (commandLine words)) = true) :
    ∃ word ∈ words, Draft.isMultiline word = true := by
  rw [Draft.isMultiline_iff, String.toList_ofList] at h
  obtain ⟨c, hc, hbreak⟩ := h
  have hother : c ∉ [' ', '\'', '"', '\\'] := by
    rcases hbreak with rfl | rfl <;> decide
  obtain ⟨word, hword, hmem⟩ := exists_of_mem_commandLine hc hother
  exact ⟨word, hword, Draft.isMultiline_iff.2 ⟨c, hmem, hbreak⟩⟩

end Shell

namespace Request

variable {q : Request} {tree : FileTree} {r : Responder} {flags : ToolchainFlags} {fault : PlanError}

/-- The texts of a request that get into variables, each with the name of the variable. -/
def texts (q : Request) : List (String × String) :=
  ("builddir", q.settings.buildDirectory.text) :: ("cxx", q.settings.compiler) ::
    ("configure", q.invocation.program.text) ::
    q.invocation.arguments.map fun argument => ("configure_args", argument)

/-- The edges of a request. -/
def edges (q : Request) : List Edge := Assembly.edges q.manifest q.settings ++ [q.invocation.edge]

/-- What a request makes: the generated sources, the object files, the binary and the build file. -/
def outputs (q : Request) : List Path :=
  q.manifest.steps.map (fun step => q.manifest.sourceFor step.module) ++
    q.manifest.modules.map (Assembly.objectFor q.settings) ++
    [q.manifest.binary, q.invocation.buildFile]

/-- What can be wrong with the plan of a request, given the files. -/
inductive PlanFault (q : Request) (tree : FileTree) : PlanError → Prop
  /-- The manifest does not fit the files. -/
  | manifest {fault : PlanError} (first : q.manifest.FirstFault tree q.root fault) : PlanFault q tree fault
  /-- The build file is an input. -/
  | overwrites {input : Path} (isInput : input ∈ q.manifest.inputs)
      (same : q.root.under input = q.root.under q.invocation.buildFile) :
      PlanFault q tree (.buildFileOverwritesInput input)
  /-- A text has many lines. -/
  | multiline {name text : String} (used : (name, text) ∈ q.texts) (lines : Draft.isMultiline text = true) :
      PlanFault q tree (.multilineVariable name)
  /-- The program or an argument holds a NUL. -/
  | unquotable {word : String} (given : word ∈ q.invocation.program.text :: q.invocation.arguments)
      (nul : ¬ Shell.NulFree word) : PlanFault q tree (.unquotableArgument word)
  /-- Something is to be made twice. -/
  | clash {before after : List Path} {p : Path} (split : q.outputs = before ++ p :: after)
      (again : p.isAmong before = true) : PlanFault q tree (.duplicateOutput p)
  /-- The edges cannot be put in an order. -/
  | circle {cycle : List Path} (circular : ¬ Schedulable q.edges) :
      PlanFault q tree (.circularDependency cycle)

/-! ### Names -/

/-- **Nothing is wrong with the names that a request declares**, whatever the flags are and whether or not the
program and its arguments can be written for the shell. -/
theorem allows_declarations (q : Request) (flags : ToolchainFlags) :
    ({} : Scope).Allows (q.declarations .standard flags) := by
  have hregeneration : Scope.Allows
      ⟨["builddir", "cxx", "cflags", "ldflags"], ["compile", "link", "codegen"]⟩
      (.ok (.default q.manifest.binary) :: q.invocation.declarations .standard) := by
    rw [Scope.allows_default_iff, Invocation.declarations]
    cases q.invocation.quotedProgram with
    | error fault => exact Scope.allows_error
    | ok program =>
      cases q.invocation.quotedArguments with
      | error fault => simp [Except.map, Invocation.programVariable]
      | ok arguments =>
        simp [Except.map, Invocation.programVariable, Invocation.argumentsVariable, Invocation.edge,
          StandardRules.get, StandardRules.standard, Action.name]
  have hedges : ∀ e ∈ Assembly.edges q.manifest q.settings,
      e.outputs ≠ [] ∧ e.rule ∈ ["compile", "link", "codegen"] := by
    intro e he
    simp only [Assembly.edges, List.mem_append, List.mem_map, List.mem_singleton] at he
    rcases he with (⟨step, -, rfl⟩ | ⟨module, -, rfl⟩) | rfl
    · simp [Assembly.generationEdge, Action.name]
    · simp [Assembly.compileEdge, Action.name]
    · simp [Assembly.linkEdge, Action.name]
  have hall := Scope.allows_edges_append hedges hregeneration
  simpa [declarations, Assembly.declarations, Assembly.globals, StandardRules.get, StandardRules.standard]
    using hall

/-! ### Texts -/

/-- **A value of many lines comes from a text of the request.** The flags have none, whatever the helper
says. -/
theorem exists_text_of_multiline (hflags : (q.probed tree r).1 = .ok flags) {name value : String}
    (h : .ok (.variable name value) ∈ q.declarations .standard flags)
    (hlines : Draft.isMultiline value = true) :
    ∃ text, (name, text) ∈ q.texts ∧ Draft.isMultiline text = true := by
  obtain ⟨hcompile, hlink⟩ := isMultiline_of_probed hflags
  rw [declarations, List.mem_append] at h
  rcases h with h | h
  · have hglobal : .variable name value ∈ Assembly.globals flags q.settings := by
      simpa [Assembly.declarations] using h
    simp only [Assembly.globals, List.mem_cons, List.not_mem_nil, or_false, Declaration.variable.injEq]
      at hglobal
    rcases hglobal with ⟨rfl, rfl⟩ | ⟨rfl, rfl⟩ | ⟨rfl, rfl⟩ | ⟨rfl, rfl⟩
    · exact ⟨_, by simp [texts], hlines⟩
    · exact ⟨_, by simp [texts], hlines⟩
    · simp [hcompile] at hlines
    · simp [hlink] at hlines
  · simp only [Invocation.declarations, List.mem_cons, List.not_mem_nil, or_false, reduceCtorEq,
      Except.ok.injEq] at h
    rcases h with h | h
    · obtain ⟨quoted, hquoted, heq⟩ := exists_of_map_eq_ok h.symm
      cases heq
      rw [Invocation.quote_eq_ok hquoted] at hlines
      exact ⟨_, by simp [texts, Invocation.programVariable], Shell.isMultiline_of_quoted hlines⟩
    · obtain ⟨quoted, hquoted, heq⟩ := exists_of_map_eq_ok h.symm
      cases heq
      rw [Invocation.quotedArguments_eq_ok hquoted] at hlines
      obtain ⟨argument, hargument, hmany⟩ := Shell.exists_of_isMultiline_commandLine hlines
      exact ⟨argument, by simpa [texts, Invocation.argumentsVariable] using hargument, hmany⟩

/-- An entry that is no declaration is a word that cannot be written for the shell. -/
theorem exists_word_of_error_mem (h : .error fault ∈ q.declarations .standard flags) :
    ∃ word ∈ q.invocation.program.text :: q.invocation.arguments, ¬ Shell.NulFree word ∧
      fault = .unquotableArgument word := by
  have hlast : .error fault ∈ q.invocation.declarations .standard := by
    rw [declarations, List.mem_append] at h
    exact h.resolve_left (by simp)
  simp only [Invocation.declarations, List.mem_cons, List.not_mem_nil, or_false, reduceCtorEq] at hlast
  rcases hlast with h | h
  · obtain ⟨hnul, hfault⟩ := Invocation.quote_eq_error_iff.1 (map_eq_error_iff.1 h.symm)
    exact ⟨_, List.mem_cons_self, hnul, hfault⟩
  · obtain ⟨before, word, after, hsplit, hnul, -, hfault⟩ :=
      Invocation.quotedArguments_eq_error_iff.1 (map_eq_error_iff.1 h.symm)
    refine ⟨word, List.mem_cons_of_mem _ ?_, hnul, hfault⟩
    rw [hsplit]
    exact List.mem_append_right before List.mem_cons_self

/-! ### Outputs -/

/-- The edge that an entry declares. -/
def edgeOf? (y : Except PlanError Declaration) : Option Edge := y.toOption.bind Declaration.edge?

theorem filterMap_edgeOf?_map_ok (xs : List Declaration) :
    (xs.map .ok).filterMap edgeOf? = xs.filterMap Declaration.edge? := by
  rw [List.filterMap_map]
  rfl

theorem filterMap_edgeOf?_declarations (q : Request) (flags : ToolchainFlags) :
    (q.declarations .standard flags).filterMap edgeOf? = q.edges := by
  have hvariable : ∀ (x : Except PlanError String) name, edgeOf? (x.map (.variable name)) = none := by
    rintro (_ | _) name <;> rfl
  rw [declarations, List.filterMap_append, filterMap_edgeOf?_map_ok, filterMap_edge?_assembly,
    Invocation.declarations, List.filterMap_cons_none (hvariable _ _),
    List.filterMap_cons_none (hvariable _ _)]
  rfl

theorem flatMap_outputs_edges (q : Request) : q.edges.flatMap Edge.outputs = q.outputs := by
  rw [outputs, List.map_eq_flatMap, List.map_eq_flatMap]
  simp only [edges, Assembly.edges, List.flatMap_append, List.flatMap_map, List.flatMap_singleton,
    List.append_assoc]
  rfl

theorem exists_output_of_mem_edges {e : Edge} (he : e ∈ q.edges) : ∃ p, e.outputs = [p] := by
  simp only [edges, Assembly.edges, List.mem_append, List.mem_map, List.mem_singleton] at he
  rcases he with ((⟨step, -, rfl⟩ | ⟨module, -, rfl⟩) | rfl) | rfl
  · exact ⟨_, rfl⟩
  · exact ⟨_, rfl⟩
  · exact ⟨_, rfl⟩
  · exact ⟨_, rfl⟩

/-- **An edge of a request clashes with the edges before it** only if the list of what the request makes has
the same path twice. -/
theorem exists_of_firstClash {before : List Declaration} {after : List (Except PlanError Declaration)}
    {e : Edge} {p : Path} (hsplit : q.declarations .standard flags = before.map .ok ++ .ok (.edge e) :: after)
    (haccepted : Draft.accepted {} before = before)
    (hclash : (Draft.submitAll {} before).graph.FirstClash e.outputs p) :
    ∃ earlier later, q.outputs = earlier ++ p :: later ∧ p.isAmong earlier = true := by
  have hedges : q.edges = before.filterMap Declaration.edge? ++ e :: after.filterMap edgeOf? := by
    rw [← filterMap_edgeOf?_declarations q flags, hsplit, List.filterMap_append, filterMap_edgeOf?_map_ok]
    rfl
  have hgraph : (Draft.submitAll {} before).graph.edges = before.filterMap Declaration.edge? := by
    rw [Draft.graph_submitAll, haccepted]
    rfl
  obtain ⟨output, houtput⟩ : ∃ output, e.outputs = [output] :=
    exists_output_of_mem_edges (hedges ▸ List.mem_append_right _ List.mem_cons_self)
  -- an edge with one output clashes with an edge before it, and not with itself
  obtain ⟨front, back, hone, hp, -⟩ := hclash
  rw [houtput] at hone
  obtain ⟨rfl, rfl⟩ : front = [] ∧ p = output := by
    rcases List.append_eq_singleton_iff.1 hone.symm with ⟨hfront, hback⟩ | ⟨-, hback⟩
    · exact ⟨hfront, (List.cons.inj hback).1⟩
    · cases hback
  refine ⟨(before.filterMap Declaration.edge?).flatMap Edge.outputs,
    (after.filterMap edgeOf?).flatMap Edge.outputs, ?_, ?_⟩
  · rw [← flatMap_outputs_edges, hedges, List.flatMap_append, List.flatMap_cons, houtput]
    rfl
  · rcases hp with ⟨f, hf, r, hr, hsame⟩ | ⟨r, hr, -⟩
    · rw [hgraph] at hf
      exact Path.isAmong_iff.2 ⟨r, List.mem_flatMap.2 ⟨f, hf, hr⟩, hsame⟩
    · cases hr

/-! ### Finishing -/

section

variable (q : Request) (flags : ToolchainFlags) (program arguments : String)

/-- All that the rules of a request mention is bound. -/
theorem allBound_outline : (Graph.ofDeclarations (q.outline flags program arguments)).AllBound := by
  have hnames : ∀ r ∈ [StandardRules.standard.compile, StandardRules.standard.link,
      StandardRules.standard.codegen, StandardRules.standard.regenerate], ∀ name ∈ r.placeholders,
      name ∈ ["in", "out", "in_newline"] ∨
        name ∈ ["builddir", "cxx", "cflags", "ldflags", "configure", "configure_args"] := by
    decide
  intro r hr name hname
  rw [rules_outline] at hr
  rw [Graph.Bound, globals_outline]
  simpa [or_assoc, @eq_comm _ _ name] using hnames r hr name (Rule.mem_placeholders_iff.2 hname)

/-- What a request asks for by default is made. -/
theorem allProduced_outline : (Graph.ofDeclarations (q.outline flags program arguments)).AllProduced := by
  intro target htarget
  rw [defaults_outline, List.mem_singleton] at htarget
  subst htarget
  rw [Graph.Produced, edges_outline]
  refine ⟨Assembly.linkEdge q.manifest q.settings, ?_, _, List.mem_cons_self, Path.Same.refl _⟩
  simp [Assembly.edges]

end

/-- **Finishing fails only if the edges cannot be put in an order.** -/
theorem exists_cycle_of_finish {program arguments : String}
    (haccepted : Draft.accepted {} (q.outline flags program arguments) = q.outline flags program arguments)
    (h : (Draft.submitAll {} (q.outline flags program arguments)).finish = .error fault) :
    (∃ cycle, fault = .circularDependency cycle) ∧ ¬ Schedulable q.edges := by
  have hd := Draft.consistent_submitAll (q.outline flags program arguments)
  have hgraph := Draft.graph_submitAll (q.outline flags program arguments)
  rw [haccepted] at hgraph
  have hbound := hgraph ▸ allBound_outline q flags program arguments
  have hproduced := hgraph ▸ allProduced_outline q flags program arguments
  have hnot : ¬ Schedulable (Draft.submitAll {} (q.outline flags program arguments)).graph.edges := by
    intro hschedule
    obtain ⟨g, hg⟩ := hd.finish_eq_ok_iff.2 ⟨hbound, hproduced, hschedule⟩
    rw [h] at hg
    cases hg
  obtain ⟨cycle, hcycle⟩ := hd.finish_of_not_schedulable hbound hproduced hnot
  rw [h] at hcycle
  rw [hgraph, edges_outline] at hnot
  exact ⟨⟨cycle, Except.error.inj hcycle⟩, hnot⟩

/-! ### All together -/

theorem planFault_of_check (h : q.check tree = .error fault) : q.PlanFault tree fault := by
  rcases eq_error_of_bind_eq_error h with h | ⟨_, -, h⟩
  · exact .manifest (Manifest.fault?_eq_some_iff.1 (Manifest.validate_eq_error_iff.1 h))
  · rw [Manifest.checkBuildFile] at h
    split at h
    · rename_i input hinput
      cases h
      exact .overwrites (List.mem_of_find?_eq_some hinput) (by simpa using List.find?_some hinput)
    · cases h

theorem planFault_of_drafted (hflags : (q.probed tree r).1 = .ok flags)
    (h : q.drafted flags = .error fault) : q.PlanFault (q.probed tree r).2 fault := by
  rcases eq_error_of_bind_eq_error h with h | ⟨rules, hrules, h⟩
  · rw [StandardRules.read_eq_standard] at h
    cases h
  rw [StandardRules.read_eq_standard] at hrules
  cases hrules
  split at h
  · rename_i draft other hperform
    cases h
    rcases Draft.consistent_empty.exists_of_perform_of_allows (allows_declarations q flags)
      (by rw [hperform]) with hmem | ⟨name, value, hmem, hlines, rfl⟩ |
        ⟨before, e, after, p, hsplit, haccepted, hclash, rfl⟩
    · obtain ⟨word, hword, hnul, rfl⟩ := exists_word_of_error_mem hmem
      exact .unquotable hword hnul
    · obtain ⟨text, hused, hmany⟩ := exists_text_of_multiline hflags hmem hlines
      exact .multiline hused hmany
    · obtain ⟨earlier, later, houtputs, hagain⟩ := exists_of_firstClash hsplit haccepted hclash
      exact .clash houtputs hagain
  · rename_i draft hperform
    obtain ⟨program, arguments, -, -, haccepted, rfl⟩ := exists_outline_of_perform hperform
    obtain ⟨⟨cycle, rfl⟩, hcircular⟩ := exists_cycle_of_finish haccepted h
    exact .circle hcircular

theorem planFault_of_graph (h : q.graph tree r = .error (.plan fault)) :
    q.PlanFault (q.probed tree r).2 fault := by
  rcases eq_error_of_bind_eq_error h with h | ⟨flags, hflags, h⟩
  · exact absurd h (probed_ne_plan fault)
  obtain ⟨other, h, hother⟩ := exists_of_mapError_eq_error h
  cases hother
  rcases eq_error_of_bind_eq_error h with h | ⟨_, -, h⟩
  · exact planFault_of_check h
  · exact planFault_of_drafted hflags h

/-- **All that a request can be refused for.** If there is no graph because the plan is at fault, then the
fault is one of the manifest, or the build file is an input, or a text that gets into a variable has many
lines, or the program or an argument holds a NUL, or the request makes something twice, or its edges cannot be
put in an order. No request fails for a rule that is not declared, an edge without outputs, a variable or a
rule declared twice, a variable that is not bound, a default target that is not made, or a rule that cannot be
read. -/
theorem faults_of_graph (q : Request) (tree : FileTree) (r : Responder) :
    (∀ fault, q.graph tree r = .error (.plan fault) → q.PlanFault (q.probed tree r).2 fault) ∧
    (∀ rule output, q.graph tree r ≠ .error (.plan (.unknownRule rule output))) ∧
    (∀ rule, q.graph tree r ≠ .error (.plan (.emptyOutputs rule))) ∧
    (∀ name, q.graph tree r ≠ .error (.plan (.duplicateVariable name))) ∧
    (∀ name, q.graph tree r ≠ .error (.plan (.duplicateRule name))) ∧
    (∀ rule name, q.graph tree r ≠ .error (.plan (.unboundPlaceholder rule name))) ∧
    (∀ target, q.graph tree r ≠ .error (.plan (.unknownDefault target))) ∧
    ∀ rule cause, q.graph tree r ≠ .error (.plan (.invalidTemplate rule cause)) := by
  refine ⟨fun _ => planFault_of_graph, ?_, ?_, ?_, ?_, ?_, ?_, ?_⟩
  -- all these could only be faults of the manifest, which they are not
  all_goals
    intros
    intro h
    rcases planFault_of_graph h with ⟨⟨⟩⟩

/-- The build file is to replace the binary, with a slash too many. -/
theorem faults_of_graph_binary :
    (small "app/").graph smallTree (.ofReplies []) = .error (.plan (.duplicateOutput ⟨"app/"⟩)) ∧
      ∃ before after, (small "app/").outputs = before ++ ⟨"app/"⟩ :: after ∧
        (Path.mk "app/").isAmong before = true := by
  have hgraph : (small "app/").graph smallTree (.ofReplies []) =
      .error (.plan (.duplicateOutput ⟨"app/"⟩)) := by
    decide +kernel
  cases (faults_of_graph (small "app/") smallTree (.ofReplies [])).1 _ hgraph with
  | manifest first => cases first
  | clash split again => exact ⟨hgraph, _, _, split, again⟩

end Request

end BuildPlan
