import BuildPlan.Graph.Basic
import BuildPlan.Json

/-!
# Graphs as JSON

`Graph.toJson` shows a graph as a JSON record: its variables, its rules by name, its edges and its
default targets, each in the order of declaration. What a rule does not have is shown as null.
-/

namespace BuildPlan

/-- A segment with its kind and its text. -/
def Segment.toJson : Segment → Json
  | .literal text => .record [("kind", .text "literal"), ("value", .text text)]
  | .variable name => .record [("kind", .text "variable"), ("value", .text name)]

def Template.toJson (t : Template) : Json := .list (t.segments.map Segment.toJson)

def Path.toJson (p : Path) : Json := .text p.text

/-- Paths as a list of their texts. -/
def Path.listToJson (ps : List Path) : Json := .list (ps.map Path.toJson)

/-- A variable with its name and value. -/
def Variable.toJson (v : Variable) : Json :=
  .record [("name", .text v.name), ("value", .text v.value)]

def Rule.toJson (r : Rule) : Json :=
  .record
    [("name", .text r.name),
     ("command", r.command.toJson),
     ("description", r.description.elim .null Template.toJson),
     ("depfile", r.depfile.elim .null Template.toJson),
     ("deps", r.deps.elim .null fun d => .text d.name),
     ("generator", .flag r.generator)]

def Edge.toJson (e : Edge) : Json :=
  .record
    [("rule", .text e.rule),
     ("outputs", Path.listToJson e.outputs),
     ("inputs", Path.listToJson e.inputs),
     ("implicit_inputs", Path.listToJson e.implicitInputs)]

def Graph.toJson (g : Graph) : Json :=
  .record
    [("variables", .list (g.globals.map Variable.toJson)),
     ("rules", .record (g.rules.map fun r => (r.name, r.toJson))),
     ("edges", .list (g.edges.map Edge.toJson)),
     ("defaults", Path.listToJson g.defaults)]

end BuildPlan
