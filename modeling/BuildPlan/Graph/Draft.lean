import BuildPlan.Error
import BuildPlan.Graph.Circularity

/-!
# Drafts of graphs

A graph is drafted declaration by declaration and then finished. A declaration is checked when it is
made, against those accepted before it; what concerns the graph as a whole is checked at the end.

* `Drafting` is what a declaration is made in: it works on the draft in place, and an error ends it
  wherever it has come to.
* `declare` makes one declaration. For an edge, `checkOutputs` goes through the outputs first and
  `recordOutputs` goes through them again.
* `Draft.answer` and `Draft.submit` are what is answered and the draft that is left, refused or not.
* `Draft.perform` makes declarations in order up to the first that cannot be made.
* `Draft.finish` checks the whole: every variable that a rule mentions is bound, every default target
  is produced, and no dependencies are circular. These are checked in this order.

Next to the graph, a draft keeps an index of the paths that its edges produce.
-/

namespace BuildPlan

/-- Something to be added to a draft. -/
inductive Declaration where
  | variable (name value : String)
  | rule (rule : Rule)
  | edge (edge : Edge)
  | default (target : Path)
deriving DecidableEq

/-- A graph being declared. -/
structure Draft where
  graph : Graph := {}
  /-- Which edge produces which path. -/
  producers : Producers := []
deriving DecidableEq

/-- What changes a draft. The changes made before an error stay. -/
abbrev Drafting := ExceptT PlanError (StateM Draft)

namespace Draft

/-! ### Making declarations -/

/-- A value that would not fit on one line. -/
def isMultiline (value : String) : Bool := value.toList.any fun c => c = '\n' || c = '\r'

def declareVariable (name value : String) : Drafting Unit := do
  if (← get).graph.declares name then throw (.duplicateVariable name)
  else if isMultiline value then throw (.multilineVariable name)
  else modify fun d => { d with graph.globals := d.graph.globals ++ [⟨name, value⟩] }

def declareRule (r : Rule) : Drafting Unit := do
  if ((← get).graph.rule? r.name).isSome then throw (.duplicateRule r.name)
  else modify fun d => { d with graph.rules := d.graph.rules ++ [r] }

/-- Stop at the first output that is produced already or has been seen. -/
def checkOutputs (seen : List Path) : List Path → Drafting Unit
  | [] => return
  | output :: rest => do
    if (← get).producers.contains output || output.isAmong seen then
      throw (.duplicateOutput output)
    else checkOutputs (output :: seen) rest

/-- Enter the outputs in the index, one after the other. -/
def recordOutputs (place : Nat) : List Path → Drafting Unit
  | [] => return
  | output :: rest => do
    modify fun d => { d with producers := d.producers.put output place }
    recordOutputs place rest

def declareEdge (e : Edge) : Drafting Unit := do
  match e.outputs with
  | [] => throw (.emptyOutputs e.rule)
  | first :: _ =>
    if ((← get).graph.rule? e.rule).isNone then throw (.unknownRule e.rule first)
    else
      checkOutputs [] e.outputs
      recordOutputs (← get).graph.edges.length e.outputs
      modify fun d => { d with graph.edges := d.graph.edges ++ [e] }

/-- Declare a default target. Declaring it again, in any spelling, changes nothing. -/
def declareDefault (target : Path) : Drafting Unit :=
  modify fun d =>
    if target.isAmong d.graph.defaults then d
    else { d with graph.defaults := d.graph.defaults ++ [target] }

def declare : Declaration → Drafting Unit
  | .variable name value => declareVariable name value
  | .rule r => declareRule r
  | .edge e => declareEdge e
  | .default target => declareDefault target

/-- What a declaration is answered. -/
def answer (d : Draft) (x : Declaration) : Except PlanError Unit := ((declare x).run d).1

/-- The draft after a declaration, whatever was answered. -/
def submit (d : Draft) (x : Declaration) : Draft := ((declare x).run d).2

/-- Make the declarations one after the other, going on after a refusal. -/
def submitAll (d : Draft) (xs : List Declaration) : Draft := xs.foldl submit d

/-- Make declarations up to the first that is at fault or refused. The error, if any, is that
declaration's. -/
def perform (d : Draft) : List (Except PlanError Declaration) → Draft × Option PlanError
  | [] => (d, none)
  | .error fault :: _ => (d, some fault)
  | .ok x :: rest =>
    match (declare x).run d with
    | (.error fault, next) => (next, some fault)
    | (.ok (), next) => next.perform rest

/-! ### Finishing -/

/-- The first rule that mentions an unbound variable, with the first such variable. -/
def unbound? (g : Graph) : Option (String × String) :=
  g.rules.findSome? fun r =>
    (r.placeholders.find? fun name => !g.binds name).map fun name => (r.name, name)

/-- The first default target that no edge produces. -/
def unproduced? (d : Draft) : Option Path :=
  d.graph.defaults.find? fun target => !d.producers.contains target

/-- The finished graph, or what is wrong with it as a whole. -/
def finish (d : Draft) : Except PlanError Graph :=
  match unbound? d.graph with
  | some (rule, name) => .error (.unboundPlaceholder rule name)
  | none =>
    match d.unproduced? with
    | some target => .error (.unknownDefault target)
    | none =>
      match Circularity.find? d.producers d.graph.edges with
      | some cycle => .error (.circularDependency cycle)
      | none => .ok d.graph

/-- A rule without variables, for the examples. -/
private def touch : Declaration := .rule { name := "touch", command := ⟨[.literal "touch"]⟩ }

/-- An edge of that rule, for the examples. -/
private def made (output : String) (inputs : List String) : Declaration :=
  .edge { rule := "touch", outputs := [⟨output⟩], inputs := inputs.map Path.mk }

example : (submitAll {} [touch, made "b" ["c"], made "c" ["a"], made "a" ["./b", "b"]]).finish
    matches .error (.circularDependency _) := by
  decide +kernel
example : (submitAll {} [touch, made "a//x" []]).answer (made "a/./x" [])
    matches .error (.duplicateOutput _) := by
  decide +kernel

end Draft

end BuildPlan
