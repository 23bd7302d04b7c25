import BuildPlan.Helper.Command
import BuildPlan.Template.Basic
import BuildPlan.Text.Quoted

/-!
# What can go wrong

Every failure ends a run before the build file is touched.

* `PlanError` holds what can be wrong with the project description, the graph or the recorded
  arguments.
* `RunError` holds what can end a run: one of those, a missing or failing helper, or a build file
  that cannot be written.

Each of them has a wording (`message`), a diagnostic code (`code`), sometimes an advice (`help?`) and
the texts of what lies behind it, outermost first (`causes`).
-/

namespace BuildPlan

/-- What can be wrong with a plan. -/
inductive PlanError where
  /-- A module is listed twice. -/
  | duplicateModule (module : String)
  /-- A module that nothing generates has no source file. -/
  | missingSource (module : String) (path : Path)
  /-- The template of a generation step is no file. -/
  | missingTemplate (path : Path)
  /-- A generation step names a module that is not listed. -/
  | unlistedGeneratedModule (module : String)
  /-- The build file would replace a source or a template. -/
  | buildFileOverwritesInput (path : Path)
  /-- Two edges, or one edge twice, produce an output. -/
  | duplicateOutput (output : Path)
  | emptyOutputs (rule : String)
  /-- A variable is declared twice. -/
  | duplicateVariable (name : String)
  /-- The value of a variable has a line break. -/
  | multilineVariable (name : String)
  /-- A rule is declared twice. -/
  | duplicateRule (name : String)
  /-- An edge uses a rule that is not declared. -/
  | unknownRule (rule : String) (output : Path)
  /-- A rule mentions a variable that is neither built in nor declared. -/
  | unboundPlaceholder (rule : String) (placeholder : String)
  /-- A default target is no output of an edge. -/
  | unknownDefault (target : Path)
  /-- Edges depend on each other in a circle. -/
  | circularDependency (cycle : List Path)
  /-- A text of a rule is no template. -/
  | invalidTemplate (rule : String) (cause : TemplateError)
  /-- An argument cannot be written for the shell. -/
  | unquotableArgument (argument : String)
deriving DecidableEq

namespace PlanError

def message : PlanError → String
  | .duplicateModule module => "module '" ++ module ++ "' is listed more than once"
  | .missingSource module path =>
    "module '" ++ module ++ "' has no source: " ++ path.text ++ " does not exist"
  | .missingTemplate path => "code-generation template " ++ path.text ++ " does not exist"
  | .unlistedGeneratedModule module =>
    "generated module '" ++ module ++ "' is not in the module list"
  | .buildFileOverwritesInput path =>
    "build file " ++ path.text ++ " would overwrite a project input"
  | .duplicateOutput output => "output " ++ output.text ++ " is produced by more than one edge"
  | .emptyOutputs rule => "an edge using rule '" ++ rule ++ "' declares no outputs"
  | .duplicateVariable name => "variable '" ++ name ++ "' is declared more than once"
  | .multilineVariable name => "value of variable '" ++ name ++ "' contains a newline"
  | .duplicateRule name => "rule '" ++ name ++ "' is declared more than once"
  | .unknownRule rule output =>
    "edge for " ++ output.text ++ " uses undeclared rule '" ++ rule ++ "'"
  | .unboundPlaceholder rule placeholder =>
    "rule '" ++ rule ++ "' references unbound variable '$" ++ placeholder ++ "'"
  | .unknownDefault target =>
    "default target " ++ target.text ++ " is not produced by any edge"
  | .circularDependency cycle =>
    "circular dependency: " ++ " -> ".intercalate (cycle.map Path.text)
  | .invalidTemplate rule cause =>
    "rule '" ++ rule ++ "' has an invalid template: " ++ cause.message
  | .unquotableArgument argument =>
    "argument " ++ Quoted.text argument ++ " cannot be quoted for the shell"

def code : PlanError → String
  | .duplicateModule _ => "neatc_configure::manifest::duplicate_module"
  | .missingSource _ _ => "neatc_configure::manifest::missing_source"
  | .missingTemplate _ => "neatc_configure::manifest::missing_template"
  | .unlistedGeneratedModule _ => "neatc_configure::manifest::unlisted_generated_module"
  | .buildFileOverwritesInput _ => "neatc_configure::manifest::build_file_overwrites_input"
  | .duplicateOutput _ => "neatc_configure::graph::duplicate_output"
  | .emptyOutputs _ => "neatc_configure::graph::empty_outputs"
  | .duplicateVariable _ => "neatc_configure::graph::duplicate_variable"
  | .multilineVariable _ => "neatc_configure::graph::multiline_variable"
  | .duplicateRule _ => "neatc_configure::graph::duplicate_rule"
  | .unknownRule _ _ => "neatc_configure::graph::unknown_rule"
  | .unboundPlaceholder _ _ => "neatc_configure::graph::unbound_placeholder"
  | .unknownDefault _ => "neatc_configure::graph::unknown_default"
  | .circularDependency _ => "neatc_configure::graph::cycle"
  | .invalidTemplate _ _ => "neatc_configure::rules::invalid_template"
  | .unquotableArgument _ => "neatc_configure::regenerate::unquotable_argument"

/-- What to do about a plan error, where there is something to say. -/
def help? : PlanError → Option String
  | .buildFileOverwritesInput _ => some "pass a different path to --output"
  | .unboundPlaceholder _ _ => some "declare the variable before finishing the graph"
  | _ => none

/-- The texts of what lies behind a plan error. -/
def causes : PlanError → List String
  | .invalidTemplate _ cause => [cause.message]
  | _ => []

end PlanError

/-- What can end a run. -/
inductive RunError where
  /-- No directory of the search path holds a helper. -/
  | toolchainNotFound (candidates : List String) (searched : List Path)
  /-- The helper did not answer a query. -/
  | queryFailed (command : String) (failure : Failure)
  | plan (error : PlanError)
  /-- The build file could not be written. -/
  | emissionFailed (path : Path) (reason : String)
deriving DecidableEq

namespace RunError

/-- How many directories of a search path are named in a message. -/
def previewLimit : Nat := 4

/-- A search path in a message: its first directories. -/
def searchPreview (searched : List Path) : String :=
  if searched.isEmpty then "search path is empty"
  else
    let shown := ", ".intercalate ((searched.take previewLimit).map Path.text)
    if previewLimit < searched.length then shown ++ ", …" else shown

def message : RunError → String
  | .toolchainNotFound candidates searched =>
    "could not find " ++ " or ".intercalate candidates ++ " on the search path (" ++
      searchPreview searched ++ ")"
  | .queryFailed command failure =>
    "toolchain query \x60" ++ command ++ "\x60 failed: " ++ failure.message
  | .plan error => error.message
  | .emissionFailed path reason => "failed to write " ++ path.text ++ ": " ++ reason

def code : RunError → String
  | .toolchainNotFound _ _ => "neatc_configure::toolchain::not_found"
  | .queryFailed _ _ => "neatc_configure::toolchain::query_failed"
  | .plan error => error.code
  | .emissionFailed _ _ => "neatc_configure::emit::failed"

/-- What to do about a run error, where there is something to say. -/
def help? : RunError → Option String
  | .toolchainNotFound _ _ =>
    some "install LLVM or add the directory holding llvm-config to PATH"
  | .plan error => error.help?
  | _ => none

/-- The texts of what lies behind a run error, outermost first. -/
def causes : RunError → List String
  | .toolchainNotFound _ _ => []
  | .queryFailed _ failure => failure.message :: failure.causes
  | .plan error => error.causes
  | .emissionFailed _ reason => [reason]

example : searchPreview [] = "search path is empty" := by decide
example : searchPreview (["a", "b", "c", "d", "e"].map Path.mk) = "a, b, c, d, …" := by decide
example : (plan (.duplicateRule "link")).code = "neatc_configure::graph::duplicate_rule" := by decide

end RunError

end BuildPlan
