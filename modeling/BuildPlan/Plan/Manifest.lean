import BuildPlan.Error
import BuildPlan.Files.Tree

/-!
# Project manifests

A manifest lists the modules of a program in link order, the steps that generate some of their
sources, and the binary.

* `Manifest.sourceFor` is the source file of a module.
* `Manifest.validate` compares a manifest with the files there are: modules are listed once, steps
  generate listed modules from templates that exist, and all other modules have a source.
* `Manifest.checkBuildFile` sees to it that the build file replaces no source and no template.

Both report the first fault: modules listed twice before faults of steps, in the order of the steps,
before missing sources.
-/

namespace BuildPlan

/-- A step that generates the source of a module. -/
structure GenerationStep where
  /-- What the source is generated from. -/
  template : Path
  module : String
deriving DecidableEq

/-- The modules of a program, the steps that generate sources, and the binary. -/
structure Manifest where
  sourceDirectory : Path
  /-- The ending of source file names, without the dot. -/
  sourceExtension : String
  /-- The modules in link order. -/
  modules : List String
  steps : List GenerationStep
  binary : Path
deriving DecidableEq

namespace Manifest

/-- The `neatc` compiler: six modules, one of them generated. -/
def neatc : Manifest where
  sourceDirectory := ⟨"src"⟩
  sourceExtension := "cc"
  modules := ["neatc", "ast", "lexer", "parse", "scope", "util"]
  steps := [⟨⟨"src/lexer.in.cc"⟩, "lexer"⟩]
  binary := ⟨"neatc"⟩

def sourceFor (m : Manifest) (module : String) : Path :=
  m.sourceDirectory.join ⟨module ++ "." ++ m.sourceExtension⟩

/-- The first step that generates a module. -/
def generatedBy? (m : Manifest) (module : String) : Option GenerationStep :=
  m.steps.find? fun step => step.module = module

/-! ### Checking against the files -/

/-- The first name that repeats an earlier one. -/
def repeated? (seen : List String) : List String → Option String
  | [] => none
  | name :: rest => if seen.contains name then some name else repeated? (name :: seen) rest

/-- What is wrong with a step: its module is not listed, or else its template is no file. -/
def stepFault? (m : Manifest) (tree : FileTree) (root : Path) (step : GenerationStep) :
    Option PlanError :=
  if !m.modules.contains step.module then some (.unlistedGeneratedModule step.module)
  else if !tree.isFile (root.join step.template) then some (.missingTemplate step.template)
  else none

/-- What is wrong with a module: nothing generates it and its source is no file. -/
def sourceFault? (m : Manifest) (tree : FileTree) (root : Path) (module : String) :
    Option PlanError :=
  if (m.generatedBy? module).isSome then none
  else if !tree.isFile (root.join (m.sourceFor module)) then
    some (.missingSource module (m.sourceFor module))
  else none

/-- The first fault of a manifest. -/
def fault? (m : Manifest) (tree : FileTree) (root : Path) : Option PlanError :=
  ((repeated? [] m.modules).map PlanError.duplicateModule).or
    ((m.steps.findSome? (m.stepFault? tree root)).or
      (m.modules.findSome? (m.sourceFault? tree root)))

/-- Check a manifest against the files below a root. -/
def validate (m : Manifest) (tree : FileTree) (root : Path) : Except PlanError Unit :=
  match m.fault? tree root with
  | some fault => .error fault
  | none => .ok ()

/-! ### Keeping the build file off the inputs -/

/-- The sources of the modules, then the templates of the steps. -/
def inputs (m : Manifest) : List Path :=
  m.modules.map m.sourceFor ++ m.steps.map GenerationStep.template

/-- Check that the build file is none of the inputs. Paths are compared below the root with `.`
dropped. -/
def checkBuildFile (m : Manifest) (root buildFile : Path) : Except PlanError Unit :=
  match m.inputs.find? fun input => root.under input = root.under buildFile with
  | some input => .error (.buildFileOverwritesInput input)
  | none => .ok ()

example : neatc.sourceFor "parse" = ⟨"src/parse.cc"⟩ := by decide
example : neatc.checkBuildFile ⟨"."⟩ ⟨"./src//ast.cc"⟩
    matches .error (.buildFileOverwritesInput _) := by
  decide

end Manifest

end BuildPlan
