import BuildPlan.Path.Basic
import BuildPlan.Template.Basic

/-!
# Build graphs

A build graph holds what a build file says, without its notation: global variables, rules, edges and
default targets, each in the order of declaration.

* `Rule` is a command template with its description, its dependency file and its flags.
* `Edge` applies a rule: it makes outputs from inputs. Implicit inputs are waited for as well but are
  no part of `$in`.
* `Graph` is the whole, with `Graph.rule?` and `Graph.edgesFor` to look things up.
* `Producers` is an index from paths to the edges that produce them. Paths are looked up by their
  components, so every spelling of a path finds the same edge.
-/

namespace BuildPlan

structure Variable where
  name : String
  value : String
deriving DecidableEq

/-- How the compiler writes down the headers that a file depends on. -/
inductive DepsFormat where
  /-- As make rules. -/
  | gcc
deriving DecidableEq

def DepsFormat.name : DepsFormat → String
  | .gcc => "gcc"

/-- How to make outputs from inputs. -/
structure Rule where
  /-- The name that edges use. -/
  name : String
  command : Template
  /-- What to show instead of the command. -/
  description : Option Template := none
  /-- The file in which the command leaves the headers it read. -/
  depfile : Option Template := none
  deps : Option DepsFormat := none
  /-- The command makes the build file itself. -/
  generator : Bool := false
deriving DecidableEq

namespace Rule

/-- The templates of a rule: command, description, dependency file. -/
def templates (r : Rule) : List Template :=
  r.command :: (r.description.toList ++ r.depfile.toList)

/-- The variables a rule mentions, template by template, repeats included. -/
def placeholders (r : Rule) : List String := r.templates.flatMap Template.placeholders

end Rule

/-- A use of a rule. -/
structure Edge where
  rule : String
  outputs : List Path
  inputs : List Path
  /-- What has to be there besides. -/
  implicitInputs : List Path := []
deriving DecidableEq

/-- All that an edge waits for. -/
def Edge.needs (e : Edge) : List Path := e.inputs ++ e.implicitInputs

/-- Variables, rules, edges and default targets in the order of declaration. -/
structure Graph where
  globals : List Variable := []
  rules : List Rule := []
  edges : List Edge := []
  /-- The targets made when none are asked for. -/
  defaults : List Path := []
deriving DecidableEq

namespace Graph

def rule? (g : Graph) (name : String) : Option Rule := g.rules.find? fun r => r.name = name

/-- The edges that use the rule of that name. -/
def edgesFor (g : Graph) (name : String) : List Edge := g.edges.filter fun e => e.rule = name

def declares (g : Graph) (name : String) : Bool := g.globals.any fun v => v.name = name

/-- The variables bound for each edge by itself. -/
def builtinVariables : List String := ["in", "out", "in_newline"]

def binds (g : Graph) (name : String) : Bool := builtinVariables.contains name || g.declares name

def outputs (g : Graph) : List Path := g.edges.flatMap Edge.outputs

end Graph

/-! ### Which edge produces a path -/

/-- An index from the components of outputs to the places of their edges. -/
abbrev Producers := List (List Component × Nat)

namespace Producers

/-- The place of the edge that produces the path. -/
def place? (producers : Producers) (p : Path) : Option Nat := producers.lookup p.components

def contains (producers : Producers) (p : Path) : Bool := (producers.place? p).isSome

/-- The index with that place for the path. A path that has a place keeps its entry and loses the old
place. -/
def put (producers : Producers) (p : Path) (place : Nat) : Producers :=
  if producers.contains p then
    producers.map fun entry => if entry.1 = p.components then (entry.1, place) else entry
  else producers ++ [(p.components, place)]

/-- Spellings of one path are looked up alike. -/
theorem place?_eq_of_same {p q : Path} (h : p.Same q) (producers : Producers) :
    producers.place? p = producers.place? q := by
  rw [place?, show p.components = q.components from h, ← place?]

/-- All that the edge producing the path waits for; nothing for a path that no edge produces. -/
def needs (producers : Producers) (edges : List Edge) (p : Path) : List Path :=
  ((producers.place? p).bind (edges[·]?)).elim [] Edge.needs

end Producers

end BuildPlan
