import BuildPlan.Graph.Basic

/-!
# Build files

A graph is written as a Ninja build file, statement by statement in the order of declaration, so that
equal graphs give equal files.

* `BuildFile.lines` is the file as a list of lines: a line for each variable and a blank line after
  the last one, a block of lines for each rule, a line and a blank line for each edge, and at most
  one line for the default targets.
* `BuildFile.text` is the file as text. Every line, the last included, ends in a line feed.

Names are written as they are. Values and literal command text are escaped by `Escape.value`, paths by
`Escape.path`. A rule has a line only for what it has.
-/

namespace BuildPlan

namespace BuildFile

def variableLine (v : Variable) : List Char :=
  v.name.toList ++ " = ".toList ++ Escape.value v.value.toList

/-- The lines of the variables, with a blank line after the last. -/
def variableLines (vs : List Variable) : List (List Char) :=
  if vs.isEmpty then [] else vs.map variableLine ++ [[]]

/-- A line inside the block of a rule. -/
def settingLine (key : String) (value : List Char) : List Char :=
  "  ".toList ++ key.toList ++ " = ".toList ++ value

/-- The lines inside the block of a rule. -/
def settingLines (r : Rule) : List (List Char) :=
  [settingLine "command" (Template.spell r.command.segments)] ++
  (r.description.map fun t => settingLine "description" (Template.spell t.segments)).toList ++
  (r.depfile.map fun t => settingLine "depfile" (Template.spell t.segments)).toList ++
  (r.deps.map fun d => settingLine "deps" d.name.toList).toList ++
  if r.generator then [settingLine "generator" ['1']] else []

def ruleLines (r : Rule) : List (List Char) :=
  ["rule ".toList ++ r.name.toList] ++ settingLines r ++ [[]]

def pathList (ps : List Path) : List Char := Escape.paths (ps.map (·.text.toList))

/-- A path list with something before it, or nothing if there are no paths. -/
def pathPart (mark : String) (ps : List Path) : List Char :=
  if ps.isEmpty then [] else mark.toList ++ pathList ps

def edgeLine (e : Edge) : List Char :=
  "build ".toList ++ pathList e.outputs ++ ": ".toList ++ e.rule.toList ++
    pathPart " " e.inputs ++ pathPart " | " e.implicitInputs

/-- The line of an edge and a blank line. -/
def edgeLines (e : Edge) : List (List Char) := [edgeLine e, []]

/-- The line of the default targets, if there are any. -/
def defaultLines (ps : List Path) : List (List Char) :=
  if ps.isEmpty then [] else ["default ".toList ++ pathList ps]

/-- The build file of a graph, line by line. -/
def lines (g : Graph) : List (List Char) :=
  variableLines g.globals ++ g.rules.flatMap ruleLines ++ g.edges.flatMap edgeLines ++
    defaultLines g.defaults

/-- Lines as text: each ends in a line feed. -/
def joined (ls : List (List Char)) : List Char := ls.flatMap (· ++ ['\n'])

/-- The build file of a graph. -/
def text (g : Graph) : String := String.ofList (joined (lines g))

example : text
    { globals := [⟨"price", "$5"⟩]
      rules := [{ name := "regen", command := ⟨[.literal "./x"]⟩, generator := true }]
      edges := [{ rule := "regen", outputs := [⟨"a b"⟩, ⟨"c:d"⟩], inputs := [],
                  implicitInputs := [⟨"x"⟩] }]
      defaults := [⟨"a b"⟩] } =
    "price = $$5\n\nrule regen\n  command = ./x\n  generator = 1\n\n" ++
      "build a$ b c$:d: regen | x\n\ndefault a$ b\n" := by
  decide

end BuildFile

end BuildPlan
