import BuildPlan.Proofs.BuildFile.Lines
import BuildPlan.Proofs.Template.Canonical
import Mathlib.Data.List.Basic

/-!
# Reading build files

A build file is read paragraph by paragraph. A blank line ends a paragraph. The first paragraph may
hold variables; every other one, and also the first where it holds none, is a statement: a rule with
its settings, an edge, or the default targets.

* `BuildFile.paragraphs` cuts a text into paragraphs.
* `BuildFile.assignment?` reads `key = value`, `BuildFile.setting?` the same with an indent.
* `BuildFile.ruleOf?` makes a rule from its settings; `BuildFile.edgeOf` makes an edge from the words
  around its colon.
* `BuildFile.addStatement` reads a statement into a graph.
* `BuildFile.read` reads a whole file.

A variable may be named `build` or `rule`, and a path may be `=`, so a line alone does not tell what
it is: `build = x: cc` is a variable or an edge. Variables are told by the sign `=` in second place,
and are looked for in the first paragraph only. There an edge cannot stand, since every edge comes
after its rule.
-/

namespace BuildPlan

/-- A character of a name: an ASCII letter or digit, `_`, `.` or `-`. -/
def isWordChar (c : Char) : Bool := c.isAlphanum || c == '_' || c == '.' || c == '-'

/-- The name needs no escape anywhere in a build file. -/
def IsWord (name : String) : Prop := ∀ c ∈ name.toList, isWordChar c = true

theorem isWord_iff_all {name : String} : IsWord name ↔ name.toList.all isWordChar = true :=
  List.all_eq_true.symm

instance (name : String) : Decidable (IsWord name) := decidable_of_iff _ isWord_iff_all.symm

theorem IsWord.notMem {name : String} (h : IsWord name) {c : Char} (hc : isWordChar c = false) :
    c ∉ name.toList := by
  intro hmem
  rw [h c hmem] at hc
  cases hc

/-- A name is written as it is. -/
theorem IsWord.path_eq {name : String} (h : IsWord name) :
    Escape.path name.toList = name.toList := by
  refine Escape.path_eq_self fun c hc => ⟨?_, ?_, ?_⟩
  · exact fun heq => h.notMem (by decide) (heq ▸ hc)
  · exact fun heq => h.notMem (by decide) (heq ▸ hc)
  · exact fun heq => h.notMem (by decide) (heq ▸ hc)

/-- The dependency format of that name. -/
def DepsFormat.ofName? (name : List Char) : Option DepsFormat :=
  if name = DepsFormat.gcc.name.toList then some .gcc else none

theorem DepsFormat.ofName?_name (d : DepsFormat) : ofName? d.name.toList = some d := by
  cases d
  rfl

namespace BuildFile

/-- The paragraphs of a text, each as its lines. -/
def paragraphs (cs : List Char) : List (List (List Char)) := (cs.splitOn '\n').dropLast.splitOn []

/-- Read `key = value`. -/
def assignment? (line : List Char) : Option (String × List Char) :=
  match line.splitOn ' ' with
  | key :: ['='] :: rest => some (String.ofList key, [' '].intercalate rest)
  | _ => none

/-- Read `key = value` after an indent of two spaces. -/
def setting? : List Char → Option (String × List Char)
  | ' ' :: ' ' :: line => assignment? line
  | _ => none

/-- Read a line as a variable. -/
def variableOf? (line : List Char) : Option Variable :=
  (assignment? line).map fun (name, value) => ⟨name, String.ofList (Escape.unvalue value)⟩

/-- The template that a setting holds. -/
def templateOf? (settings : List (String × List Char)) (key : String) : Option Template :=
  (settings.lookup key).bind fun value => (Template.read (String.ofList value)).toOption

/-- The rule of that name with those settings. -/
def ruleOf? (name : String) (settings : List (String × List Char)) : Option Rule :=
  (templateOf? settings "command").map fun command =>
    { name
      command
      description := templateOf? settings "description"
      depfile := templateOf? settings "depfile"
      deps := (settings.lookup "deps").bind DepsFormat.ofName?
      generator := settings.lookup "generator" == some ['1'] }

/-- The edge with those outputs and that rule. The sign `|` stands before the implicit inputs. -/
def edgeOf (outputs : List String) (rule : String) (needs : List String) : Edge where
  rule := rule
  outputs := outputs.map Path.mk
  inputs := (needs.takeWhile fun word => word ≠ "|").map Path.mk
  implicitInputs := ((needs.dropWhile fun word => word ≠ "|").drop 1).map Path.mk

/-- Read a statement into a graph. -/
def addStatement (g : Graph) : List (List Char) → Option Graph
  | [] => some g
  | line :: settings =>
    match Escape.fields line with
    | [["rule", name]] =>
      (ruleOf? name (settings.filterMap setting?)).map fun r => { g with rules := g.rules ++ [r] }
    | ["build" :: outputs, _ :: rule :: needs] =>
      some { g with edges := g.edges ++ [edgeOf outputs rule needs] }
    | ["default" :: targets] => some { g with defaults := g.defaults ++ targets.map Path.mk }
    | _ => none

/-- Read statements into a graph, one after the other. -/
def addStatements (g : Graph) (ps : List (List (List Char))) : Option Graph :=
  ps.foldlM addStatement g

/-- The variables of a paragraph, if its first line is a variable. -/
def variablesOf? (p : List (List Char)) : Option (List Variable) :=
  (p.head?.bind variableOf?).map fun _ => p.filterMap variableOf?

/-- Read a build file. -/
def read (text : String) : Option Graph :=
  match paragraphs text.toList with
  | [] => none
  | first :: rest =>
    match variablesOf? first with
    | some vs => addStatements { globals := vs } rest
    | none => addStatements {} (first :: rest)

/-! ### Variables and settings -/

/-- A key without spaces is told from its value. -/
theorem assignment?_append {key : List Char} (h : ' ' ∉ key) (value : List Char) :
    assignment? (key ++ " = ".toList ++ value) = some (String.ofList key, value) := by
  rw [assignment?, splitOn_assignment h]
  simp only [List.intercalate_splitOn]

/-- **A variable is read back from its line.** -/
theorem variableOf?_variableLine {v : Variable} (h : ' ' ∉ v.name.toList) :
    variableOf? (variableLine v) = some v := by
  rw [variableOf?, variableLine, assignment?_append h]
  simp

theorem setting?_settingLine {key : String} (h : ' ' ∉ key.toList) (value : List Char) :
    setting? (settingLine key value) = some (key, value) := by
  have hline : settingLine key value = ' ' :: ' ' :: (key.toList ++ " = ".toList ++ value) := by
    simp [settingLine]
  rw [hline, setting?, assignment?_append h, String.ofList_toList]

/-- The head of a rule is no variable, unless the rule is named by an equals sign. -/
theorem variableOf?_rule {name : List Char} (h : name ≠ ['=']) (h' : ' ' ∉ name) :
    variableOf? ("rule ".toList ++ name) = none := by
  have hsplit : ("rule ".toList ++ name).splitOn ' ' = ["rule".toList, name] := by
    have hword : ("rule".toList ++ ' ' :: name).splitOn ' ' = "rule".toList :: name.splitOn ' ' :=
      List.splitOn_append_cons_self_of_not_mem (by decide) name
    have happend : "rule ".toList ++ name = "rule".toList ++ ' ' :: name := by simp
    rw [happend, hword, List.splitOn_eq_singleton h']
  rw [variableOf?, assignment?, hsplit]
  split
  · rename_i heq
    simp only [List.cons.injEq] at heq
    exact absurd heq.2.1 h
  · rfl

/-! ### Rules -/

/-- The settings of a rule. -/
def settings (r : Rule) : List (String × List Char) :=
  [("command", Template.spell r.command.segments)] ++
  (r.description.map fun t => ("description", Template.spell t.segments)).toList ++
  (r.depfile.map fun t => ("depfile", Template.spell t.segments)).toList ++
  (r.deps.map fun d => ("deps", d.name.toList)).toList ++
  if r.generator then [("generator", ['1'])] else []

/-- The lines of a rule are its settings. -/
theorem settingLines_eq (r : Rule) :
    settingLines r = (settings r).map fun s => settingLine s.1 s.2 := by
  rcases r with ⟨name, command, _ | description, _ | depfile, _ | deps, _ | _⟩ <;> rfl

/-- The keys of the settings are five. -/
theorem key_mem {r : Rule} {s : String × List Char} (h : s ∈ settings r) :
    s.1 ∈ ["command", "description", "depfile", "deps", "generator"] := by
  simp only [settings, List.mem_append, List.mem_singleton, Option.mem_toList,
    Option.map_eq_some_iff] at h
  rcases h with (((rfl | ⟨t, -, rfl⟩) | ⟨t, -, rfl⟩) | ⟨d, -, rfl⟩) | h
  · simp
  · simp
  · simp
  · simp
  · split at h
    · rw [List.mem_singleton.1 h]
      simp
    · cases h

theorem filterMap_settingLines (r : Rule) : (settingLines r).filterMap setting? = settings r := by
  have hspace : ∀ key ∈ ["command", "description", "depfile", "deps", "generator"],
      ' ' ∉ String.toList key := by decide
  have hread : ∀ s ∈ settings r, (setting? ∘ fun s => settingLine s.1 s.2) s = some s :=
    fun s hs => setting?_settingLine (hspace s.1 (key_mem hs)) s.2
  rw [settingLines_eq, List.filterMap_map, List.filterMap_congr hread, List.filterMap_some]

theorem lookup_optional {α : Type} (key other : String) (value : α → List Char) (o : Option α) :
    (o.map fun a => (other, value a)).toList.lookup key =
      if key = other then o.map value else none := by
  cases o with
  | none => simp
  | some a =>
    by_cases h : key = other
    · simp [h]
    · have hne : (key == other) = false := by simpa using h
      simp [List.lookup_cons, hne, h]

theorem lookup_flag (key other : String) (value : List Char) (b : Bool) :
    (if b then [(other, value)] else []).lookup key =
      if key = other ∧ b = true then some value else none := by
  cases b with
  | false => simp
  | true =>
    by_cases h : key = other
    · simp [h]
    · simp [h]

theorem templateOf?_eq {settings : List (String × List Char)} {key : String} {t : Option Template}
    (hlookup : settings.lookup key = t.map fun t => Template.spell t.segments)
    (h : ∀ u ∈ t, Template.Canonical u.segments) : templateOf? settings key = t := by
  rw [templateOf?, hlookup]
  cases t with
  | none => rfl
  | some t =>
    have hread := Template.read_display (h t rfl)
    rw [Template.display] at hread
    rw [Option.map_some, Option.bind_some, hread]
    rfl

/-- **A rule is read back from its settings.** -/
theorem ruleOf?_settings {r : Rule} (h : ∀ t ∈ r.templates, Template.Canonical t.segments) :
    ruleOf? r.name (settings r) = some r := by
  have hcommand : templateOf? (settings r) "command" = some r.command :=
    templateOf?_eq rfl fun u hu => h u (by cases hu; simp [Rule.templates])
  have hdescription : templateOf? (settings r) "description" = r.description := by
    refine templateOf?_eq ?_ fun u hu => h u (by simp [Rule.templates, Option.mem_def.1 hu])
    simp [settings, List.lookup_cons, List.lookup_append, lookup_optional, lookup_flag]
  have hdepfile : templateOf? (settings r) "depfile" = r.depfile := by
    refine templateOf?_eq ?_ fun u hu => h u (by simp [Rule.templates, Option.mem_def.1 hu])
    simp [settings, List.lookup_cons, List.lookup_append, lookup_optional, lookup_flag]
  have hdeps : ((settings r).lookup "deps").bind DepsFormat.ofName? = r.deps := by
    have hlookup : (settings r).lookup "deps" = r.deps.map fun d => d.name.toList := by
      simp [settings, List.lookup_cons, List.lookup_append, lookup_optional, lookup_flag]
    rw [hlookup]
    cases r.deps with
    | none => rfl
    | some d => exact DepsFormat.ofName?_name d
  have hgenerator : ((settings r).lookup "generator" == some ['1']) = r.generator := by
    have hlookup : (settings r).lookup "generator" = if r.generator then some ['1'] else none := by
      simp [settings, List.lookup_cons, List.lookup_append, lookup_optional, lookup_flag]
    rw [hlookup]
    cases r.generator <;> rfl
  rw [ruleOf?, hcommand, hdescription, hdepfile, hdeps, hgenerator]
  rfl

/-! ### Statements -/

/-- Paths as words. -/
def texts (ps : List Path) : List String := ps.map Path.text

@[simp] theorem map_mk_texts (ps : List Path) : (texts ps).map Path.mk = ps := by
  rw [texts, List.map_map]
  exact List.map_id ps

@[simp] theorem paths_texts (ps : List Path) :
    Escape.paths ((texts ps).map String.toList) = pathList ps := by
  rw [texts, List.map_map]
  rfl

@[simp] theorem isEmpty_texts (ps : List Path) : (texts ps).isEmpty = ps.isEmpty := List.isEmpty_map

/-- A word before paths. -/
theorem paths_word_texts (word : String) (h : Escape.path word.toList = word.toList)
    {ps : List Path} (hps : ps ≠ []) :
    Escape.paths ((word :: texts ps).map String.toList) = word.toList ++ ' ' :: pathList ps := by
  obtain ⟨first, rest, rfl⟩ := List.exists_cons_of_ne_nil hps
  rw [← paths_texts, texts, List.map_cons, List.map_cons, List.map_cons, Escape.paths_cons_cons,
    h]

/-- The words for the implicit inputs of an edge. -/
def implicitWords (e : Edge) : List String :=
  if e.implicitInputs.isEmpty then [] else "|" :: texts e.implicitInputs

theorem pathPart_inputs (e : Edge) :
    (if ((texts e.inputs).map String.toList).isEmpty then []
      else ' ' :: Escape.paths ((texts e.inputs).map String.toList)) = pathPart " " e.inputs := by
  rw [List.isEmpty_map, isEmpty_texts, paths_texts]
  rfl

theorem pathPart_implicitInputs (e : Edge) :
    (if ((implicitWords e).map String.toList).isEmpty then []
      else ' ' :: Escape.paths ((implicitWords e).map String.toList)) =
      pathPart " | " e.implicitInputs := by
  rw [List.isEmpty_map, pathPart, implicitWords]
  split
  · rfl
  · rename_i hne
    have hpaths : Escape.paths (("|" :: texts e.implicitInputs).map String.toList) =
        "|".toList ++ ' ' :: pathList e.implicitInputs :=
      paths_word_texts "|" (by decide) (by simpa using hne)
    rw [if_neg (by simp), hpaths]
    rfl

/-- The line of an edge is two path lists with a colon between them. -/
theorem edgeLine_eq {e : Edge} (hrule : IsWord e.rule) (houtputs : e.outputs ≠ []) :
    edgeLine e =
      Escape.paths (("build" :: texts e.outputs).map String.toList) ++
        ':' :: Escape.paths
          ((["", e.rule] ++ texts e.inputs ++ implicitWords e).map String.toList) := by
  have hbuild : Escape.paths (("build" :: texts e.outputs).map String.toList) =
      "build ".toList ++ pathList e.outputs :=
    paths_word_texts "build" (by decide) houtputs
  have hhead : Escape.paths (["", e.rule].map String.toList) = ' ' :: e.rule.toList := by
    rw [List.map_cons, List.map_singleton, Escape.paths_cons_cons, Escape.paths, List.map_singleton,
      List.intercalate_singleton, hrule.path_eq]
    rfl
  have hneeds : Escape.paths
      ((["", e.rule] ++ texts e.inputs ++ implicitWords e).map String.toList) =
      ' ' :: e.rule.toList ++ pathPart " " e.inputs ++ pathPart " | " e.implicitInputs := by
    rw [List.map_append, List.map_append, Escape.paths_append (by simp),
      Escape.paths_append (by simp), hhead, pathPart_inputs, pathPart_implicitInputs]
  have hcolon : ": ".toList = [':', ' '] := rfl
  rw [hbuild, hneeds]
  unfold edgeLine
  rw [hcolon]
  simp only [List.append_assoc, List.cons_append, List.nil_append]

/-- **An edge is read back from its line.** -/
theorem addStatement_edge (g : Graph) {e : Edge} (hrule : IsWord e.rule) (houtputs : e.outputs ≠ [])
    (hbar : ∀ p ∈ e.inputs, p.text ≠ "|") :
    addStatement g [edgeLine e] = some { g with edges := g.edges ++ [e] } := by
  have hfields : Escape.fields (edgeLine e) =
      ["build" :: texts e.outputs, ["", e.rule] ++ texts e.inputs ++ implicitWords e] := by
    rw [edgeLine_eq hrule houtputs, Escape.fields_paths_colon (by simp) (by simp)]
  have hplain : ∀ word ∈ texts e.inputs, decide (word ≠ "|") = true := by
    intro word hword
    obtain ⟨p, hp, rfl⟩ := List.mem_map.1 hword
    exact decide_eq_true (hbar p hp)
  have htake : (texts e.inputs ++ implicitWords e).takeWhile (fun word => word ≠ "|") =
      texts e.inputs := by
    rw [List.takeWhile_append_of_pos hplain, implicitWords]
    split <;> simp
  have hdrop : ((texts e.inputs ++ implicitWords e).dropWhile fun word => word ≠ "|").drop 1 =
      texts e.implicitInputs := by
    rw [List.dropWhile_append_of_pos hplain, implicitWords]
    split
    · rename_i hempty
      rw [List.isEmpty_iff.1 hempty]
      rfl
    · simp
  have hedge : edgeOf (texts e.outputs) e.rule (texts e.inputs ++ implicitWords e) = e := by
    rw [edgeOf, htake, hdrop, map_mk_texts, map_mk_texts, map_mk_texts]
  rw [addStatement, hfields]
  simp [hedge]

/-- **A rule is read back from its block.** -/
theorem addStatement_rule (g : Graph) {r : Rule} (hname : IsWord r.name)
    (h : ∀ t ∈ r.templates, Template.Canonical t.segments) :
    addStatement g (("rule ".toList ++ r.name.toList) :: settingLines r) =
      some { g with rules := g.rules ++ [r] } := by
  have hline : "rule ".toList ++ r.name.toList = Escape.paths (["rule", r.name].map String.toList) := by
    rw [List.map_cons, List.map_singleton, Escape.paths_cons_cons, Escape.paths, List.map_singleton,
      List.intercalate_singleton, hname.path_eq]
    rfl
  have hfields : Escape.fields ("rule ".toList ++ r.name.toList) = [["rule", r.name]] := by
    rw [hline, Escape.fields_paths (by simp)]
  rw [addStatement, hfields]
  simp [filterMap_settingLines, ruleOf?_settings h]

/-- **The default targets are read back from their line.** -/
theorem addStatement_defaults (g : Graph) (ps : List Path) :
    addStatement g (defaultLines ps) = some { g with defaults := g.defaults ++ ps } := by
  rw [defaultLines]
  split
  · rename_i hempty
    rw [List.isEmpty_iff.1 hempty, addStatement, List.append_nil]
  · rename_i hne
    have hline : "default ".toList ++ pathList ps =
        Escape.paths (("default" :: texts ps).map String.toList) :=
      Eq.symm (paths_word_texts "default" (by decide) (by simpa using hne))
    have hfields : Escape.fields ("default ".toList ++ pathList ps) = ["default" :: texts ps] := by
      rw [hline, Escape.fields_paths (by simp)]
    rw [addStatement, hfields]
    simp

end BuildFile

end BuildPlan
