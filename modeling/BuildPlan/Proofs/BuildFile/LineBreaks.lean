import BuildPlan.Proofs.BuildFile.RoundTrip

/-!
# Line breaks in a build file

A build file is made of lines, and nothing in the format stands for a line break. So it matters which
texts of a graph may hold one, since every character of such a text ends up in the file. The value of a
variable is refused if it holds a line feed or a carriage return, and the text of a template if it holds
a line feed. Nothing is asked of the names of variables and rules and of paths, and templates may hold
carriage returns.

* `forall_lines_iff` — the lines have no line breaks exactly if the texts that they are made of have none.
* `Graph.unguarded`, `Graph.literals` — the texts of a finished graph that may hold one.
* **`text_is_lines_iff`** — the build file of a finished graph falls into the lines that it was made of,
  and holds no carriage returns, exactly if these texts have none.
* `text_is_not_lines` — a finished graph whose paths and names bring lines of their own into the file.
-/

namespace BuildPlan

namespace Template

/-- The text of a literal. -/
def literal? : Segment → Option String
  | .literal text => some text
  | .variable _ => none

/-- The literal texts of a template. -/
def literals (t : Template) : List String := t.segments.filterMap literal?

/-- Whatever breaks a line in the written form of a template stands in one of its literals. -/
theorem notMem_spell_iff {c : Char} (hc : BuildFile.IsBreak c) {segments : List Segment}
    (h : Canonical segments) :
    c ∉ spell segments ↔ ∀ text ∈ segments.filterMap literal?, c ∉ text.toList := by
  induction segments with
  | nil => simp [spell]
  | cons segment rest ih =>
    cases segment with
    | literal text =>
      have hfilter : (Segment.literal text :: rest).filterMap literal? =
          text :: rest.filterMap literal? := rfl
      rw [spell, List.mem_append, not_or, Escape.mem_value_iff, ih h.2.2.2, hfilter,
        List.forall_mem_cons]
    | «variable» name =>
      obtain ⟨hname, hrest⟩ := h
      have hfilter : (Segment.variable name :: rest).filterMap literal? =
          rest.filterMap literal? := rfl
      rw [isName, Bool.and_eq_true, List.all_eq_true] at hname
      have hvalid : isNameChar c = false := by
        rcases hc with rfl | rfl <;> decide
      have hfresh : c ∉ name.toList := by
        intro hmem
        rw [hname.2 c hmem] at hvalid
        cases hvalid
      have hsigns : c ≠ '$' ∧ c ≠ '\x7b' ∧ c ≠ '\x7d' :=
        ⟨hc.ne (by decide), hc.ne (by decide), hc.ne (by decide)⟩
      have hreference : c ∉ reference name.toList (extendsName rest) := by
        rw [reference]
        split
        · simp [hfresh, hsigns]
        · simp [hfresh, hsigns]
      rw [spell, List.mem_append, or_iff_right hreference, ih hrest, hfilter]

end Template

namespace BuildFile

/-! ### The lines of a graph -/

section

variable {c : Char} (hc : IsBreak c)

include hc

theorem forall_settingLines_iff {r : Rule} :
    (∀ l ∈ settingLines r, c ∉ l) ↔ ∀ t ∈ r.templates, c ∉ Template.spell t.segments := by
  have hoption : ∀ key : String, '\n' ∉ key.toList ∧ '\r' ∉ key.toList → ∀ t : Option Template,
      (∀ l ∈ (t.map fun t => settingLine key (Template.spell t.segments)).toList, c ∉ l) ↔
        ∀ u ∈ t.toList, c ∉ Template.spell u.segments := by
    intro key hkey t
    cases t with
    | none => simp
    | some u => simpa using notMem_settingLine_iff hc hkey
  have hdeps : ∀ l ∈ (r.deps.map fun d => settingLine "deps" d.name.toList).toList, c ∉ l := by
    intro l hl
    obtain ⟨d, -, rfl⟩ := Option.map_eq_some_iff.1 (Option.mem_toList.1 hl)
    rw [notMem_settingLine_iff hc (by decide)]
    cases d
    exact hc.notMem (by decide)
  have hgenerator : ∀ l ∈ if r.generator then [settingLine "generator" ['1']] else [], c ∉ l := by
    have hone : c ∉ "1".toList := hc.notMem (by decide)
    intro l hl
    split at hl
    · rw [List.mem_singleton.1 hl, notMem_settingLine_iff hc (by decide)]
      exact hone
    · cases hl
  rw [settingLines, Rule.templates, List.forall_mem_append, List.forall_mem_append,
    List.forall_mem_append, List.forall_mem_append, List.forall_mem_singleton, List.forall_mem_cons,
    List.forall_mem_append, notMem_settingLine_iff hc (by decide), hoption "description" (by decide),
    hoption "depfile" (by decide), and_iff_left hgenerator, and_iff_left hdeps, and_assoc]

theorem forall_ruleLines_iff {r : Rule} :
    (∀ l ∈ ruleLines r, c ∉ l) ↔
      c ∉ r.name.toList ∧ ∀ t ∈ r.templates, c ∉ Template.spell t.segments := by
  have hrule : c ∉ "rule ".toList := hc.notMem (by decide)
  have hblank : ∀ l ∈ [([] : List Char)], c ∉ l := by simp
  rw [ruleLines, List.forall_mem_append, List.forall_mem_append, List.forall_mem_singleton,
    List.mem_append, or_iff_right hrule, forall_settingLines_iff hc, and_iff_left hblank]

/-- **The lines have no line breaks** exactly if the texts have none that they are made of. -/
theorem forall_lines_iff {g : Graph} :
    (∀ l ∈ lines g, c ∉ l) ↔
      (∀ v ∈ g.globals, c ∉ v.name.toList ∧ c ∉ v.value.toList) ∧
      (∀ r ∈ g.rules, c ∉ r.name.toList ∧ ∀ t ∈ r.templates, c ∉ Template.spell t.segments) ∧
      (∀ e ∈ g.edges, c ∉ e.rule.toList) ∧
      ∀ p ∈ g.paths, c ∉ p.text.toList := by
  have hvariables : (∀ l ∈ variableLines g.globals, c ∉ l) ↔
      ∀ v ∈ g.globals, c ∉ v.name.toList ∧ c ∉ v.value.toList := by
    simp only [← notMem_variableLine_iff hc, variableLines]
    cases g.globals with
    | nil => simp
    | cons v vs =>
      have hblank : ∀ l ∈ [([] : List Char)], c ∉ l := by simp
      rw [if_neg (by simp), List.forall_mem_append, List.forall_mem_map, and_iff_left hblank]
  have hedges : (∀ l ∈ g.edges.flatMap edgeLines, c ∉ l) ↔
      (∀ e ∈ g.edges, c ∉ e.rule.toList) ∧
        ∀ e ∈ g.edges, ∀ p ∈ e.outputs ++ e.inputs ++ e.implicitInputs, c ∉ p.text.toList := by
    have hedge : ∀ e, (∀ l ∈ edgeLines e, c ∉ l) ↔ c ∉ edgeLine e := by
      intro e
      simp [edgeLines]
    simp only [List.forall_mem_flatMap, hedge, notMem_edgeLine_iff hc, forall_and]
  rw [lines, List.forall_mem_append, List.forall_mem_append, List.forall_mem_append, hvariables,
    List.forall_mem_flatMap, hedges, forall_defaultLines_iff hc, Graph.paths, List.forall_mem_append,
    List.forall_mem_flatMap]
  simp only [forall_ruleLines_iff hc, and_assoc]

end

end BuildFile

/-! ### Finished graphs -/

namespace Graph

/-- The texts of a graph that are written without a look at their line breaks: the names of variables
and rules, and the paths. -/
def unguarded (g : Graph) : List String :=
  g.globals.map Variable.name ++ g.rules.map Rule.name ++ g.paths.map Path.text

/-- The literal texts of the templates of a graph. -/
def literals (g : Graph) : List String :=
  g.rules.flatMap fun r => r.templates.flatMap Template.literals

/-- The templates of the graph were read. -/
def TemplatesRead (g : Graph) : Prop :=
  ∀ r ∈ g.rules, ∀ t ∈ r.templates, ∃ text, Template.read text = .ok t

/-- The values of variables are single lines. -/
theorem Finished.notMem_value {g : Graph} (h : g.Finished) {c : Char} (hc : BuildFile.IsBreak c) :
    ∀ v ∈ g.globals, c ∉ v.value.toList := by
  obtain ⟨d, hd, -, rfl⟩ := h.exists_consistent
  intro v hv
  rcases hc with rfl | rfl
  · exact (hd.value_singleLine v hv).1
  · exact (hd.value_singleLine v hv).2

end Graph

namespace BuildFile

variable {g : Graph}

/-- The lines of a finished graph have no line breaks exactly if names, paths and literals have none:
the values of variables have none in any case, and edges have the names of rules. -/
theorem forall_lines_iff_of_finished (hfinished : g.Finished) (hread : g.TemplatesRead) {c : Char}
    (hc : IsBreak c) :
    (∀ l ∈ lines g, c ∉ l) ↔ ∀ s ∈ g.unguarded ++ g.literals, c ∉ s.toList := by
  have hspell : ∀ r ∈ g.rules, ∀ t ∈ r.templates,
      (c ∉ Template.spell t.segments ↔ ∀ s ∈ t.literals, c ∉ s.toList) := by
    intro r hr t ht
    obtain ⟨text, htext⟩ := hread r hr t ht
    exact Template.notMem_spell_iff hc (Template.canonical_of_read htext)
  rw [forall_lines_iff hc, Graph.unguarded, Graph.literals]
  simp only [List.forall_mem_append, List.forall_mem_map, List.forall_mem_flatMap]
  constructor
  · rintro ⟨hvariables, hrules, -, hpaths⟩
    refine ⟨⟨⟨fun v hv => (hvariables v hv).1, fun r hr => (hrules r hr).1⟩, hpaths⟩, ?_⟩
    intro r hr t ht
    exact (hspell r hr t ht).1 ((hrules r hr).2 t ht)
  · rintro ⟨⟨⟨hvariables, hrules⟩, hpaths⟩, hliterals⟩
    refine ⟨fun v hv => ⟨hvariables v hv, hfinished.notMem_value hc v hv⟩, ?_, ?_, hpaths⟩
    · intro r hr
      refine ⟨hrules r hr, ?_⟩
      intro t ht
      exact (hspell r hr t ht).2 (hliterals r hr t ht)
    · intro e he
      obtain ⟨r, hr, hname⟩ := hfinished.rule_declared e he
      rw [← hname]
      exact hrules r hr

/-- What was read as a template is one line. -/
theorem newline_notMem_literals (hread : g.TemplatesRead) : ∀ s ∈ g.literals, '\n' ∉ s.toList := by
  simp only [Graph.literals, List.forall_mem_flatMap]
  intro r hr t ht
  obtain ⟨text, htext⟩ := hread r hr t ht
  have hcanonical := Template.canonical_of_read htext
  exact (Template.notMem_spell_iff (.inl rfl) hcanonical).1 (Template.newline_notMem_spell hcanonical)

theorem return_notMem_text_iff : '\r' ∉ (text g).toList ↔ ∀ l ∈ lines g, '\r' ∉ l := by
  rw [text, String.toList_ofList, joined]
  simp

/-- **When a build file is made of its lines.** The graph was finished, after any calls, and its
templates were read. Then the text falls into the lines of the variables, the rules, the edges and the
default targets exactly if no name of a variable or a rule and no path holds a line feed. There are no
carriage returns in it exactly if these hold none, and no literal of a template does. -/
theorem text_is_lines_iff (hfinished : g.Finished) (hread : g.TemplatesRead) :
    ((text g).toList.splitOn '\n' = lines g ++ [[]] ↔ ∀ s ∈ g.unguarded, '\n' ∉ s.toList) ∧
      ('\r' ∉ (text g).toList ↔ ∀ s ∈ g.unguarded ++ g.literals, '\r' ∉ s.toList) := by
  constructor
  · rw [text, String.toList_ofList, splitOn_joined_iff,
      forall_lines_iff_of_finished hfinished hread (.inl rfl), List.forall_mem_append,
      and_iff_left (newline_notMem_literals hread)]
  · rw [return_notMem_text_iff, forall_lines_iff_of_finished hfinished hread (.inr rfl)]

theorem text_is_lines_iff_lookalike :
    lookalike.Finished ∧ lookalike.TemplatesRead ∧
      (text lookalike).toList.splitOn '\n' = lines lookalike ++ [[]] ∧
      '\r' ∉ (text lookalike).toList := by
  have hfinished : lookalike.Finished := ⟨lookalike.declarations.map .declare, by decide +kernel⟩
  have hread : lookalike.TemplatesRead := by
    have hdisplay : ∀ r ∈ lookalike.rules, ∀ t ∈ r.templates, Template.read t.display = .ok t := by
      decide +kernel
    exact fun r hr t ht => ⟨t.display, hdisplay r hr t ht⟩
  obtain ⟨hlines, hreturns⟩ := text_is_lines_iff hfinished hread
  exact ⟨hfinished, hread, hlines.2 (by decide), hreturns.2 (by decide)⟩

/-- A graph with a line feed in the name of a variable and in a path, and a carriage return in a
command. -/
def unruly : Graph where
  globals := [⟨"n\nm", "v"⟩]
  rules := [{ name := "r", command := ⟨[.literal "touch\r"]⟩ }]
  edges := [{ rule := "r", outputs := [⟨"o"⟩], inputs := [⟨"a\ncxx=sh"⟩] }]

/-- The path of an input adds a line to the file that sets a variable. -/
theorem text_is_not_lines :
    unruly.Finished ∧ Template.read "touch\r" = .ok ⟨[.literal "touch\r"]⟩ ∧
      (text unruly).toList.splitOn '\n' ≠ lines unruly ++ [[]] ∧
      "cxx=sh".toList ∈ (text unruly).toList.splitOn '\n' ∧ "cxx=sh".toList ∉ lines unruly ∧
      '\r' ∈ (text unruly).toList := by
  have hfinished : unruly.Finished := ⟨unruly.declarations.map .declare, by decide +kernel⟩
  exact ⟨hfinished, by decide +kernel, by decide +kernel, by decide +kernel, by decide +kernel,
    by decide +kernel⟩

end BuildFile

end BuildPlan
