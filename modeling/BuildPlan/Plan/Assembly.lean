import BuildPlan.Graph.Draft
import BuildPlan.Plan.Manifest
import BuildPlan.Plan.StandardRules

/-!
# Assembling the plan

The manifest, the settings and the flags of the toolchain are turned into declarations: four variables,
three rules, an edge for each generated source, an edge for each object file, the edge of the binary,
and the binary as the default target. Object files are linked in manifest order.

* `Assembly.declarations` lists them in order. Which of them can be made is up to the draft.
* `Assembly.objectFor` is the object file of a module.
-/

namespace BuildPlan

structure ToolchainFlags where
  compile : String := ""
  link : String := ""
  libraries : String := ""
deriving DecidableEq

structure Settings where
  /-- The directory that receives object files. -/
  buildDirectory : Path := ⟨"build"⟩
  compiler : String := "clang++"
deriving DecidableEq

namespace Assembly

/-- The language standard that all modules are compiled for. -/
def standardFlag : String := "-std=c++11"

/-- Two flag texts as one, with a space between them unless one is empty. -/
def joinFlags (first second : String) : String :=
  if second.isEmpty then first
  else if first.isEmpty then second
  else first ++ " " ++ second

def objectFor (settings : Settings) (module : String) : Path :=
  settings.buildDirectory.join ⟨module ++ ".o"⟩

/-- The four variables. -/
def globals (flags : ToolchainFlags) (settings : Settings) : List Declaration :=
  [.variable "builddir" settings.buildDirectory.text,
   .variable "cxx" settings.compiler,
   .variable "cflags" (joinFlags standardFlag flags.compile),
   .variable "ldflags" (joinFlags flags.link flags.libraries)]

def generationEdge (m : Manifest) (step : GenerationStep) : Edge where
  rule := Action.codegen.name
  outputs := [m.sourceFor step.module]
  inputs := [step.template]

/-- The edge of an object file. -/
def compileEdge (m : Manifest) (settings : Settings) (module : String) : Edge where
  rule := Action.compile.name
  outputs := [objectFor settings module]
  inputs := [m.sourceFor module]

def linkEdge (m : Manifest) (settings : Settings) : Edge where
  rule := Action.link.name
  outputs := [m.binary]
  inputs := m.modules.map (objectFor settings)

def edges (m : Manifest) (settings : Settings) : List Edge :=
  m.steps.map (generationEdge m) ++ m.modules.map (compileEdge m settings) ++ [linkEdge m settings]

def declarations (rules : StandardRules) (flags : ToolchainFlags) (m : Manifest)
    (settings : Settings) : List Declaration :=
  globals flags settings ++
    [.rule (rules.get .compile), .rule (rules.get .link), .rule (rules.get .codegen)] ++
    (edges m settings).map .edge ++ [.default m.binary]

example : joinFlags "-L/x" "" = "-L/x" ∧ joinFlags "" "-lz" = "-lz" ∧
    joinFlags "-L/x" "-lz" = "-L/x -lz" := by
  decide

end Assembly

end BuildPlan
