import BuildPlan.Proofs.BuildFile.Reader
import BuildPlan.Proofs.Draft.Finishing

/-!
# Build files are read back

A graph that came out of a draft is read back from its build file, if its names are words, its paths
hold neither line feeds nor bars, and its templates were read. So nothing is lost in writing, and two
such graphs with the same build file are the same graph.

* `Graph.Legible` — the conditions on names, paths and templates.
* `BuildFile.Proper` — a line that is not blank and is one line, as all lines of a paragraph are.
* `BuildFile.paragraphs_text` — the paragraphs of a build file: the variables, if there are any, then
  a paragraph for each rule and each edge, and last the default targets.
* `BuildFile.addStatements_statements` — read one after the other, the paragraphs after the variables
  make the graph.
* **`text_lossless`** — the graph is read back, so no other such graph has the same build file.

The paragraph of the variables is told from the others because it is the first, and because a graph
without variables does not start with an edge: it starts with a rule or is empty. This is where it
matters that the graph was finished. Every edge has a declared rule, and every default target has an
edge that makes it.
-/

namespace BuildPlan

namespace Graph

/-- The declarations that a graph is made of. -/
def declarations (g : Graph) : List Declaration :=
  g.globals.map (fun v => .variable v.name v.value) ++ g.rules.map .rule ++ g.edges.map .edge ++
    g.defaults.map .default

/-- All paths that the graph mentions. -/
def paths (g : Graph) : List Path :=
  g.edges.flatMap (fun e => e.outputs ++ e.inputs ++ e.implicitInputs) ++ g.defaults

/-- What is asked of a graph so that its build file can be read. Names and paths may be empty. -/
structure Legible (g : Graph) : Prop where
  /-- Variables are named by words. -/
  variable_word : ∀ v ∈ g.globals, IsWord v.name
  /-- Rules are named by words. -/
  rule_word : ∀ r ∈ g.rules, IsWord r.name
  /-- Templates were read. -/
  template_read : ∀ r ∈ g.rules, ∀ t ∈ r.templates, ∃ text, Template.read text = .ok t
  /-- Paths hold neither line feeds nor bars. -/
  path_plain : ∀ p ∈ g.paths, '\n' ∉ p.text.toList ∧ '|' ∉ p.text.toList

namespace Finished

variable {g : Graph}

theorem value_singleLine (h : g.Finished) : ∀ v ∈ g.globals, '\n' ∉ v.value.toList := by
  obtain ⟨d, hd, -, rfl⟩ := h.exists_consistent
  exact fun v hv => (hd.value_singleLine v hv).1

theorem outputs_ne_nil (h : g.Finished) : ∀ e ∈ g.edges, e.outputs ≠ [] := by
  obtain ⟨d, hd, -, rfl⟩ := h.exists_consistent
  exact hd.outputs_ne_nil

theorem rule_declared (h : g.Finished) : ∀ e ∈ g.edges, ∃ r ∈ g.rules, r.name = e.rule := by
  obtain ⟨d, hd, -, rfl⟩ := h.exists_consistent
  exact hd.rule_declared

/-- Without rules there is nothing but variables. -/
theorem eq_nil_of_rules_eq_nil (h : g.Finished) (hrules : g.rules = []) :
    g.edges = [] ∧ g.defaults = [] := by
  have hedges : g.edges = [] := by
    refine List.eq_nil_iff_forall_not_mem.2 fun e he => ?_
    obtain ⟨r, hr, -⟩ := h.rule_declared e he
    rw [hrules] at hr
    cases hr
  refine ⟨hedges, List.eq_nil_iff_forall_not_mem.2 fun target htarget => ?_⟩
  obtain ⟨d, hd, hfinish, rfl⟩ := h.exists_consistent
  obtain ⟨e, he, -⟩ := (hd.finish_eq_ok_iff.1 ⟨_, hfinish⟩).2.1 target htarget
  rw [hedges] at he
  cases he

end Finished

namespace Legible

variable {g : Graph}

theorem canonical (h : g.Legible) {r : Rule} (hr : r ∈ g.rules) :
    ∀ t ∈ r.templates, Template.Canonical t.segments := by
  intro t ht
  obtain ⟨text, hread⟩ := h.template_read r hr t ht
  exact Template.canonical_of_read hread

theorem edge_word (h : g.Legible) (hfinished : g.Finished) {e : Edge} (he : e ∈ g.edges) :
    IsWord e.rule := by
  obtain ⟨r, hr, hname⟩ := hfinished.rule_declared e he
  exact hname ▸ h.rule_word r hr

theorem path_plain_of_edge (h : g.Legible) {e : Edge} (he : e ∈ g.edges) {p : Path}
    (hp : p ∈ e.outputs ++ e.inputs ++ e.implicitInputs) :
    '\n' ∉ p.text.toList ∧ '|' ∉ p.text.toList :=
  h.path_plain p (List.mem_append_left _ (List.mem_flatMap.2 ⟨e, he, hp⟩))

end Legible

end Graph

namespace BuildFile

/-! ### Proper lines -/

/-- The line is not blank, and it is one line. -/
def Proper (l : List Char) : Prop := l ≠ [] ∧ '\n' ∉ l

theorem proper_variableLine {v : Variable} (hname : IsWord v.name)
    (hvalue : '\n' ∉ v.value.toList) : Proper (variableLine v) := by
  refine ⟨?_, (notMem_variableLine_iff (.inl rfl)).2 ⟨hname.notMem (by decide), hvalue⟩⟩
  simp [variableLine]

theorem proper_edgeLine {e : Edge} (hrule : IsWord e.rule)
    (h : ∀ p ∈ e.outputs ++ e.inputs ++ e.implicitInputs, '\n' ∉ p.text.toList) :
    Proper (edgeLine e) := by
  refine ⟨?_, (notMem_edgeLine_iff (.inl rfl)).2 ⟨hrule.notMem (by decide), h⟩⟩
  unfold edgeLine
  simp

theorem proper_defaultLines {ps : List Path} (h : ∀ p ∈ ps, '\n' ∉ p.text.toList) :
    ∀ l ∈ defaultLines ps, Proper l := by
  intro l hl
  refine ⟨?_, (forall_defaultLines_iff (.inl rfl)).2 h l hl⟩
  rw [defaultLines] at hl
  split at hl
  · cases hl
  · rw [List.mem_singleton.1 hl]
    simp

/-- The value of a setting is a written template, the name of a dependency format or the sign `1`. -/
theorem newline_notMem_settings {r : Rule} (h : ∀ t ∈ r.templates, Template.Canonical t.segments) :
    ∀ s ∈ settings r, '\n' ∉ s.2 := by
  intro s hs
  simp only [settings, List.mem_append, List.mem_singleton, Option.mem_toList,
    Option.map_eq_some_iff] at hs
  rcases hs with (((rfl | ⟨t, ht, rfl⟩) | ⟨t, ht, rfl⟩) | ⟨d, -, rfl⟩) | hs
  · exact Template.newline_notMem_spell (h _ (by simp [Rule.templates]))
  · exact Template.newline_notMem_spell (h t (by simp [Rule.templates, ht]))
  · exact Template.newline_notMem_spell (h t (by simp [Rule.templates, ht]))
  · cases d
    decide
  · split at hs
    · rw [List.mem_singleton.1 hs]
      decide
    · cases hs

theorem proper_settingLines {r : Rule} (h : ∀ t ∈ r.templates, Template.Canonical t.segments) :
    ∀ l ∈ settingLines r, Proper l := by
  have hkeys : ∀ key ∈ ["command", "description", "depfile", "deps", "generator"],
      '\n' ∉ String.toList key ∧ '\r' ∉ String.toList key := by decide
  intro l hl
  rw [settingLines_eq] at hl
  obtain ⟨s, hs, rfl⟩ := List.mem_map.1 hl
  have hvalue := newline_notMem_settings h s hs
  refine ⟨by simp [settingLine], ?_⟩
  exact (notMem_settingLine_iff (.inl rfl) (hkeys s.1 (key_mem hs))).2 hvalue

/-! ### Paragraphs -/

/-- The paragraph of the variables, if there are any. -/
def variableParagraphs (g : Graph) : List (List (List Char)) :=
  if g.globals.isEmpty then [] else [g.globals.map variableLine]

/-- The paragraph of a rule. -/
def ruleParagraph (r : Rule) : List (List Char) :=
  ("rule ".toList ++ r.name.toList) :: settingLines r

/-- The paragraph of an edge. -/
def edgeParagraph (e : Edge) : List (List Char) := [edgeLine e]

/-- The paragraphs of the rules and the edges. -/
def statements (g : Graph) : List (List (List Char)) :=
  g.rules.map ruleParagraph ++ g.edges.map edgeParagraph

/-- The lines are the paragraphs, each with a blank line after it, and the default targets. -/
theorem lines_eq (g : Graph) :
    lines g = (variableParagraphs g ++ statements g).flatMap (· ++ [[]]) ++
      defaultLines g.defaults := by
  have hvariables : variableLines g.globals = (variableParagraphs g).flatMap (· ++ [[]]) := by
    rw [variableLines, variableParagraphs]
    split <;> simp
  have hrules : g.rules.flatMap ruleLines = (g.rules.map ruleParagraph).flatMap (· ++ [[]]) := by
    rw [List.flatMap_map]
    rfl
  have hedges : g.edges.flatMap edgeLines = (g.edges.map edgeParagraph).flatMap (· ++ [[]]) := by
    rw [List.flatMap_map]
    rfl
  rw [lines, hvariables, hrules, hedges, statements, List.flatMap_append, List.flatMap_append,
    List.append_assoc (List.flatMap _ (variableParagraphs g))]

section

variable {g : Graph} (hfinished : g.Finished) (hlegible : g.Legible)

include hfinished hlegible

theorem proper_of_mem_paragraph :
    ∀ p ∈ variableParagraphs g ++ statements g, ∀ l ∈ p, Proper l := by
  intro p hp l hl
  rw [statements, List.mem_append, List.mem_append] at hp
  rcases hp with hp | hp | hp
  · rw [variableParagraphs] at hp
    split at hp
    · cases hp
    · rw [List.mem_singleton.1 hp] at hl
      obtain ⟨v, hv, rfl⟩ := List.mem_map.1 hl
      exact proper_variableLine (hlegible.variable_word v hv) (hfinished.value_singleLine v hv)
  · obtain ⟨r, hr, rfl⟩ := List.mem_map.1 hp
    rw [ruleParagraph, List.mem_cons] at hl
    rcases hl with rfl | hl
    · have hname := (hlegible.rule_word r hr).notMem (c := '\n') (by decide)
      exact ⟨by simp, by simp [hname]⟩
    · exact proper_settingLines (hlegible.canonical hr) l hl
  · obtain ⟨e, he, rfl⟩ := List.mem_map.1 hp
    rw [List.mem_singleton.1 hl]
    exact proper_edgeLine (hlegible.edge_word hfinished he)
      fun p hp => (hlegible.path_plain_of_edge he hp).1

omit hfinished in
theorem proper_of_mem_defaultLines : ∀ l ∈ defaultLines g.defaults, Proper l :=
  proper_defaultLines fun p hp => (hlegible.path_plain p (List.mem_append_right _ hp)).1

theorem newline_notMem_lines : ∀ l ∈ lines g, '\n' ∉ l := by
  intro l hl
  rw [lines_eq, List.mem_append] at hl
  rcases hl with hl | hl
  · obtain ⟨p, hp, hl⟩ := List.mem_flatMap.1 hl
    rcases List.mem_append.1 hl with hl | hl
    · exact (proper_of_mem_paragraph hfinished hlegible p hp l hl).2
    · rw [List.mem_singleton.1 hl]
      exact List.not_mem_nil
  · exact (proper_of_mem_defaultLines hlegible l hl).2

/-- **The paragraphs of a build file.** -/
theorem paragraphs_text :
    paragraphs (text g).toList =
      variableParagraphs g ++ statements g ++ [defaultLines g.defaults] := by
  have hlines : (joined (lines g)).splitOn '\n' = lines g ++ [[]] :=
    splitOn_joined_iff.2 (newline_notMem_lines hfinished hlegible)
  have hblank : ∀ p ∈ variableParagraphs g ++ statements g, [] ∉ p :=
    fun p hp hmem => (proper_of_mem_paragraph hfinished hlegible p hp [] hmem).1 rfl
  have hblank' : [] ∉ defaultLines g.defaults :=
    fun hmem => (proper_of_mem_defaultLines hlegible [] hmem).1 rfl
  rw [paragraphs, text, String.toList_ofList, hlines, List.dropLast_concat, lines_eq,
    splitOn_closed hblank, List.splitOn_eq_singleton hblank']

/-! ### Reading the paragraphs -/

omit hfinished hlegible in
theorem addStatements_append {g g' : Graph} {ps qs : List (List (List Char))}
    (h : addStatements g ps = some g') :
    addStatements g (ps ++ qs) = addStatements g' qs := by
  rw [addStatements] at h
  rw [addStatements, List.foldlM_append, h]
  rfl

omit hfinished hlegible in
theorem addStatements_rules (g : Graph) {rs : List Rule}
    (h : ∀ r ∈ rs, IsWord r.name ∧ ∀ t ∈ r.templates, Template.Canonical t.segments) :
    addStatements g (rs.map ruleParagraph) = some { g with rules := g.rules ++ rs } := by
  induction rs generalizing g with
  | nil => rw [List.append_nil]; rfl
  | cons r rs ih =>
    obtain ⟨hname, hcanonical⟩ := h r List.mem_cons_self
    rw [List.map_cons, addStatements, List.foldlM_cons, ruleParagraph,
      addStatement_rule g hname hcanonical, Option.bind_eq_bind, Option.bind_some]
    rw [← addStatements, ih _ fun s hs => h s (List.mem_cons_of_mem r hs), List.append_assoc,
      List.singleton_append]

omit hfinished hlegible in
theorem addStatements_edges (g : Graph) {es : List Edge}
    (h : ∀ e ∈ es, IsWord e.rule ∧ e.outputs ≠ [] ∧ ∀ p ∈ e.inputs, p.text ≠ "|") :
    addStatements g (es.map edgeParagraph) = some { g with edges := g.edges ++ es } := by
  induction es generalizing g with
  | nil => rw [List.append_nil]; rfl
  | cons e es ih =>
    obtain ⟨hrule, houtputs, hbar⟩ := h e List.mem_cons_self
    rw [List.map_cons, addStatements, List.foldlM_cons, edgeParagraph,
      addStatement_edge g hrule houtputs hbar, Option.bind_eq_bind, Option.bind_some]
    rw [← addStatements, ih _ fun f hf => h f (List.mem_cons_of_mem e hf), List.append_assoc,
      List.singleton_append]

/-- **The paragraphs after the variables add all the rest.** -/
theorem addStatements_statements :
    addStatements { globals := g.globals } (statements g ++ [defaultLines g.defaults]) = some g := by
  have hrules : ∀ r ∈ g.rules, IsWord r.name ∧ ∀ t ∈ r.templates, Template.Canonical t.segments :=
    fun r hr => ⟨hlegible.rule_word r hr, hlegible.canonical hr⟩
  have hedges : ∀ e ∈ g.edges, IsWord e.rule ∧ e.outputs ≠ [] ∧ ∀ p ∈ e.inputs, p.text ≠ "|" := by
    intro e he
    refine ⟨hlegible.edge_word hfinished he, hfinished.outputs_ne_nil e he, ?_⟩
    intro p hp hbar
    have hplain := (hlegible.path_plain_of_edge he (p := p) (by simp [hp])).2
    rw [hbar] at hplain
    exact hplain (by decide)
  rw [statements, List.append_assoc, addStatements_append (addStatements_rules _ hrules),
    addStatements_append (addStatements_edges _ hedges), addStatements, List.foldlM_cons,
    addStatement_defaults]
  rfl

/-- Without variables, the first paragraph is not taken for variables. -/
theorem exists_first_statement :
    ∃ first rest, statements g ++ [defaultLines g.defaults] = first :: rest ∧
      variablesOf? first = none := by
  cases hrules : g.rules with
  | nil =>
    obtain ⟨hedges, hdefaults⟩ := hfinished.eq_nil_of_rules_eq_nil hrules
    refine ⟨[], [], ?_, rfl⟩
    rw [statements, hrules, hedges, hdefaults]
    rfl
  | cons r rs =>
    have hname := hlegible.rule_word r (hrules ▸ List.mem_cons_self)
    have hequals : r.name.toList ≠ ['='] := by
      intro heq
      exact hname.notMem (c := '=') (by decide) (heq ▸ List.mem_cons_self)
    refine ⟨ruleParagraph r, _, by rw [statements, hrules]; rfl, ?_⟩
    rw [variablesOf?, ruleParagraph, List.head?_cons, Option.bind_some,
      variableOf?_rule hequals (hname.notMem (by decide))]
    rfl

omit hfinished in
theorem variablesOf?_globals (hne : g.globals ≠ []) :
    variablesOf? (g.globals.map variableLine) = some g.globals := by
  have hread : ∀ v ∈ g.globals, (variableOf? ∘ variableLine) v = some v :=
    fun v hv => variableOf?_variableLine ((hlegible.variable_word v hv).notMem (by decide))
  have hhead : ((g.globals.map variableLine).head?.bind variableOf?).isSome = true := by
    obtain ⟨v, vs, hglobals⟩ := List.exists_cons_of_ne_nil hne
    have hv := hread v (hglobals ▸ List.mem_cons_self)
    rw [Function.comp_apply] at hv
    rw [hglobals, List.map_cons, List.head?_cons, Option.bind_some, hv]
    rfl
  obtain ⟨v, hv⟩ := Option.isSome_iff_exists.1 hhead
  rw [variablesOf?, hv, Option.map_some, List.filterMap_map, List.filterMap_congr hread,
    List.filterMap_some]

/-- A finished, legible graph is read back from its build file. -/
theorem read_text_eq_some : read (text g) = some g := by
  have hstatements := addStatements_statements hfinished hlegible
  rw [read, paragraphs_text hfinished hlegible, variableParagraphs]
  by_cases hglobals : g.globals = []
  · obtain ⟨first, rest, hfirst, hnone⟩ := exists_first_statement hfinished hlegible
    rw [hglobals, hfirst] at hstatements
    rw [hglobals, List.isEmpty_nil, if_pos rfl, List.nil_append, hfirst]
    simp only [hnone]
    exact hstatements
  · have hempty : ¬ g.globals.isEmpty = true := by simpa using hglobals
    rw [if_neg hempty, List.append_assoc, List.singleton_append]
    simp only [variablesOf?_globals hlegible hglobals]
    exact hstatements

end

/-- **Nothing is lost in writing.** A graph that came out of a draft, with words for names, paths
without line feeds and bars, and templates that were read, is read back from its build file. So two
such graphs with the same build file are the same graph. -/
theorem text_lossless {g : Graph} (hfinished : g.Finished) (hlegible : g.Legible) :
    read (text g) = some g ∧
      ∀ g' : Graph, g'.Finished → g'.Legible → text g = text g' → g = g' := by
  have hread := read_text_eq_some hfinished hlegible
  refine ⟨hread, fun g' hfinished' hlegible' htext => ?_⟩
  have hread' := read_text_eq_some hfinished' hlegible'
  rw [htext, hread'] at hread
  exact (Option.some.inj hread).symm

/-- A graph whose names, values and paths look like other parts of a build file. -/
def lookalike : Graph where
  globals := [⟨"build", "= x: cc $"⟩, ⟨"rule", ""⟩]
  rules :=
    [{ name := "default"
       command := ⟨[.variable "build", .literal "x $y: ", .variable "in"]⟩
       description := some ⟨[.literal "generator = 1"]⟩
       deps := some .gcc
       generator := true }]
  edges :=
    [{ rule := "default", outputs := [⟨"="⟩, ⟨"a b: c$"⟩], inputs := [⟨"build"⟩],
       implicitInputs := [⟨"rule"⟩, ⟨"$in"⟩] }]
  defaults := [⟨"="⟩]

theorem text_lossless_lookalike :
    lookalike.Finished ∧ lookalike.Legible ∧ read (text lookalike) = some lookalike := by
  have hfinished : lookalike.Finished :=
    ⟨lookalike.declarations.map .declare, by decide +kernel⟩
  have hread : ∀ r ∈ lookalike.rules, ∀ t ∈ r.templates, Template.read t.display = .ok t := by
    decide +kernel
  have hlegible : lookalike.Legible :=
    { variable_word := by decide +kernel
      rule_word := by decide +kernel
      template_read := fun r hr t ht => ⟨t.display, hread r hr t ht⟩
      path_plain := by decide +kernel }
  exact ⟨hfinished, hlegible, (text_lossless hfinished hlegible).1⟩

end BuildFile

end BuildPlan
