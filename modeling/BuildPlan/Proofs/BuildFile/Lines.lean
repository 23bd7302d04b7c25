import BuildPlan.BuildFile
import BuildPlan.Proofs.BuildFile.Symbols
import BuildPlan.Proofs.Text.Words

/-!
# Lines of a build file

A line of a build file is put together from texts of the graph and from signs. No sign is a line break,
so a line holds one only if a text does.

The variables come first, one line each. So the value of a variable is found without reading anything
else: it stands on the first line that starts with the name and an equals sign.

* `splitOn_closed` — cutting at a separator undoes closing every part with it; `splitOn_joined_iff` says
  for which lines a text falls into the lines that it was made of.
* `IsBreak` — the line breaks; `notMem_variableLine_iff`, `notMem_settingLine_iff`,
  `notMem_edgeLine_iff` — the lines without them.
* `BuildFile.valueOf?` — the value on the first line that starts with a name and an equals sign, with
  its escapes undone.
* **`valueOf?_text`** — this is the value of the variable of that name, as long as names are no more
  than words, no two variables share one, and values are single lines. The lines after the variables
  do not matter, whatever is on them.
-/

namespace BuildPlan

namespace BuildFile

/-- Cutting at a separator undoes closing every part with it. -/
theorem splitOn_closed {α : Type} [BEq α] [LawfulBEq α] {sep : α} {parts : List (List α)}
    (h : ∀ part ∈ parts, sep ∉ part) (rest : List α) :
    (parts.flatMap (· ++ [sep]) ++ rest).splitOn sep = parts ++ rest.splitOn sep := by
  induction parts with
  | nil => rfl
  | cons part parts ih =>
    have ih := ih fun other hother => h other (List.mem_cons_of_mem part hother)
    rw [List.flatMap_cons, List.append_assoc, List.append_assoc, List.singleton_append,
      List.splitOn_append_cons_self_of_not_mem (h part List.mem_cons_self), ih, List.cons_append]

/-- **A text falls into the lines that it was made of** if and only if each of them is one line. -/
theorem splitOn_joined_iff {ls : List (List Char)} :
    (joined ls).splitOn '\n' = ls ++ [[]] ↔ ∀ l ∈ ls, '\n' ∉ l := by
  constructor
  · intro h l hl
    have hpiece : l ∈ (joined ls).splitOn '\n' := by
      rw [h]
      exact List.mem_append_left _ hl
    exact notMem_of_mem_splitOn hpiece
  · intro h
    have hsplit := splitOn_closed h []
    rwa [List.append_nil] at hsplit

/-! ### Line breaks -/

/-- The character breaks a line: it is a line feed or a carriage return. -/
def IsBreak (c : Char) : Prop := c = '\n' ∨ c = '\r'

section

variable {c : Char} (hc : IsBreak c)

include hc

theorem IsBreak.notMem {s : String} (hs : '\n' ∉ s.toList ∧ '\r' ∉ s.toList) : c ∉ s.toList := by
  rcases hc with rfl | rfl
  · exact hs.1
  · exact hs.2

theorem IsBreak.ne {d : Char} (hd : '\n' ≠ d ∧ '\r' ≠ d) : c ≠ d := by
  rcases hc with rfl | rfl
  · exact hd.1
  · exact hd.2

theorem notMem_variableLine_iff {v : Variable} :
    c ∉ variableLine v ↔ c ∉ v.name.toList ∧ c ∉ v.value.toList := by
  have hequals : c ∉ " = ".toList := hc.notMem (by decide)
  rw [variableLine, List.mem_append, List.mem_append, Escape.mem_value_iff, or_iff_left hequals, not_or]

theorem notMem_settingLine_iff {key : String} (hkey : '\n' ∉ key.toList ∧ '\r' ∉ key.toList)
    {value : List Char} : c ∉ settingLine key value ↔ c ∉ value := by
  have hindent : c ∉ "  ".toList := hc.notMem (by decide)
  have hequals : c ∉ " = ".toList := hc.notMem (by decide)
  rw [settingLine, List.mem_append, List.mem_append, List.mem_append, or_iff_right hindent,
    or_iff_right (hc.notMem hkey), or_iff_right hequals]

theorem notMem_pathList_iff {ps : List Path} :
    c ∉ pathList ps ↔ ∀ p ∈ ps, c ∉ p.text.toList := by
  rw [pathList, Escape.mem_paths_iff (hc.ne (by decide)) (hc.ne (by decide))]
  simp

theorem notMem_pathPart_iff {mark : String} (hmark : '\n' ∉ mark.toList ∧ '\r' ∉ mark.toList)
    {ps : List Path} : c ∉ pathPart mark ps ↔ ∀ p ∈ ps, c ∉ p.text.toList := by
  rw [pathPart]
  cases ps with
  | nil => simp
  | cons p ps =>
    rw [if_neg (by simp), List.mem_append, or_iff_right (hc.notMem hmark), notMem_pathList_iff hc]

theorem notMem_edgeLine_iff {e : Edge} :
    c ∉ edgeLine e ↔
      c ∉ e.rule.toList ∧ ∀ p ∈ e.outputs ++ e.inputs ++ e.implicitInputs, c ∉ p.text.toList := by
  have hbuild : c ∉ "build ".toList := hc.notMem (by decide)
  have hcolon : c ∉ ": ".toList := hc.notMem (by decide)
  have hinputs : c ∉ pathPart " " e.inputs ↔ ∀ p ∈ e.inputs, c ∉ p.text.toList :=
    notMem_pathPart_iff hc (by decide)
  have himplicit : c ∉ pathPart " | " e.implicitInputs ↔
      ∀ p ∈ e.implicitInputs, c ∉ p.text.toList := notMem_pathPart_iff hc (by decide)
  rw [List.forall_mem_append, List.forall_mem_append, ← notMem_pathList_iff hc, ← hinputs, ← himplicit]
  unfold edgeLine
  simp only [List.mem_append, hbuild, hcolon, false_or, or_false, not_or]
  rw [and_comm (b := c ∉ e.rule.toList), and_assoc, and_assoc, and_assoc]

theorem forall_defaultLines_iff {ps : List Path} :
    (∀ l ∈ defaultLines ps, c ∉ l) ↔ ∀ p ∈ ps, c ∉ p.text.toList := by
  have hdefault : c ∉ "default ".toList := hc.notMem (by decide)
  rw [← notMem_pathList_iff hc, defaultLines]
  cases ps with
  | nil => simp [pathList, Escape.paths]
  | cons p ps =>
    rw [if_neg (by simp), List.forall_mem_singleton, List.mem_append, or_iff_right hdefault]

end

/-! ### The lines of the variables -/

/-- What a line for the variable of that name starts with. -/
def opening (name : String) : List Char := name.toList ++ " = ".toList

/-- The value on the first line that starts with the name and an equals sign. -/
def valueOf? (text name : String) : Option String :=
  ((text.toList.splitOn '\n').findSome? (opening name).isPrefixOf?).map fun value =>
    String.ofList (Escape.unvalue value)

/-- A key without spaces, the sign `=` and the value are told apart by spaces. -/
theorem splitOn_assignment {key : List Char} (h : ' ' ∉ key) (value : List Char) :
    (key ++ " = ".toList ++ value).splitOn ' ' = key :: ['='] :: value.splitOn ' ' := by
  have hsign : (['='] ++ ' ' :: value).splitOn ' ' = ['='] :: value.splitOn ' ' :=
    List.splitOn_append_cons_self_of_not_mem (by decide) value
  have happend : key ++ " = ".toList ++ value = key ++ ' ' :: (['='] ++ ' ' :: value) := by
    simp
  rw [happend, List.splitOn_append_cons_self_of_not_mem h, hsign]

/-- The line of a variable starts with its own name and an equals sign, and with no other name. -/
theorem isPrefixOf?_variableLine {name : String} (h : ' ' ∉ name.toList) {v : Variable}
    (hv : ' ' ∉ v.name.toList) :
    (opening name).isPrefixOf? (variableLine v) =
      if v.name = name then some (Escape.value v.value.toList) else none := by
  split
  · rename_i hname
    rw [variableLine, hname]
    exact List.isPrefixOf?_eq_some_iff_append_eq.2 rfl
  · rename_i hname
    rw [Option.eq_none_iff_forall_ne_some]
    intro rest hrest
    have heq := congrArg (List.splitOn ' ') (List.isPrefixOf?_eq_some_iff_append_eq.1 hrest).symm
    rw [variableLine, opening, splitOn_assignment hv, splitOn_assignment h] at heq
    exact hname (String.toList_inj.1 (List.cons.inj heq).1)

/-- Among lines of variables, the first that starts with a name is the line of that variable. -/
theorem findSome?_variableLine {vs : List Variable} (hnames : ∀ v ∈ vs, ' ' ∉ v.name.toList)
    (hnodup : (vs.map Variable.name).Nodup) {v : Variable} (hv : v ∈ vs) :
    (vs.map variableLine).findSome? (opening v.name).isPrefixOf? =
      some (Escape.value v.value.toList) := by
  induction vs with
  | nil => cases hv
  | cons u us ih =>
    rw [List.map_cons, List.nodup_cons] at hnodup
    rw [List.map_cons, List.findSome?_cons,
      isPrefixOf?_variableLine (hnames v hv) (hnames u List.mem_cons_self)]
    by_cases hname : u.name = v.name
    · -- names are not repeated, so this is the variable itself
      rcases List.mem_cons.1 hv with rfl | hmem
      · rw [if_pos rfl]
      · exact absurd (List.mem_map.2 ⟨v, hmem, hname.symm⟩) hnodup.1
    · rcases List.mem_cons.1 hv with rfl | hmem
      · exact absurd rfl hname
      · rw [if_neg hname]
        exact ih (fun w hw => hnames w (List.mem_cons_of_mem u hw)) hnodup.2 hmem

theorem exists_toList_text {g : Graph} (hne : g.globals ≠ []) :
    ∃ rest, (text g).toList = joined (g.globals.map variableLine) ++ rest := by
  refine ⟨joined ([[]] ++ (g.rules.flatMap ruleLines ++ (g.edges.flatMap edgeLines ++
    defaultLines g.defaults))), ?_⟩
  have hempty : ¬ g.globals.isEmpty = true := by simpa using hne
  have hlines : lines g = g.globals.map variableLine ++ ([[]] ++ (g.rules.flatMap ruleLines ++
      (g.edges.flatMap edgeLines ++ defaultLines g.defaults))) := by
    rw [lines, variableLines, if_neg hempty]
    simp only [List.append_assoc]
  rw [text, String.toList_ofList, hlines, joined, List.flatMap_append]
  rfl

/-- **The value of a variable is found in the build file.** -/
theorem valueOf?_text {g : Graph}
    (hnames : ∀ v ∈ g.globals, ' ' ∉ v.name.toList ∧ '\n' ∉ v.name.toList)
    (hnodup : (g.globals.map Variable.name).Nodup)
    (hvalues : ∀ v ∈ g.globals, '\n' ∉ v.value.toList) {v : Variable} (hv : v ∈ g.globals) :
    valueOf? (text g) v.name = some v.value := by
  have hfree : ∀ l ∈ g.globals.map variableLine, '\n' ∉ l := by
    intro l hl
    obtain ⟨u, hu, rfl⟩ := List.mem_map.1 hl
    exact (notMem_variableLine_iff (.inl rfl)).2 ⟨(hnames u hu).2, hvalues u hu⟩
  obtain ⟨rest, hrest⟩ := exists_toList_text (List.ne_nil_of_mem hv)
  rw [valueOf?, hrest, joined, splitOn_closed hfree, List.findSome?_append,
    findSome?_variableLine (fun u hu => (hnames u hu).1) hnodup hv]
  simp

end BuildFile

end BuildPlan
