import BuildPlan.Error
import BuildPlan.Graph.Basic
import BuildPlan.Template.Read

/-!
# The four standard rules

Every build file of this program has the same rules: compile a module, link the binary, generate a
source file, and regenerate the build file. Their texts are read as templates like any others, so a
text that were no template would show up as an error.

The rules mention the variables `cxx`, `cflags`, `ldflags`, `configure` and `configure_args`. The plan
declares the first three, the regeneration step the other two.
-/

namespace BuildPlan

/-- What the standard rules do. -/
inductive Action where
  | compile
  | link
  /-- Generate a source file from a template. -/
  | codegen
  /-- Make the build file again. -/
  | regenerate
deriving DecidableEq

namespace Action

def name : Action → String
  | .compile => "compile"
  | .link => "link"
  | .codegen => "codegen"
  | .regenerate => "regenerate"

def command : Action → String
  | .compile => "$cxx -MMD -MF $out.d $cflags -c $in -o $out"
  | .link => "$cxx $in $ldflags -o $out"
  | .codegen => "re2c -b -i --no-generation-date -o $out $in"
  | .regenerate => "$configure $configure_args"

def description : Action → String
  | .compile => "cxx $in"
  | .link => "link $out"
  | .codegen => "re2c $out"
  | .regenerate => "configure $configure_args"

/-- The dependency file, where there is one. -/
def depfile? : Action → Option (String × DepsFormat)
  | .compile => some ("$out.d", .gcc)
  | _ => none

/-- The rule makes the build file itself. -/
def isGenerator : Action → Bool
  | .regenerate => true
  | _ => false

/-- A text of the rule as a template. -/
def readTemplate (a : Action) (text : String) : Except PlanError Template :=
  (Template.read text).mapError (.invalidTemplate a.name)

def rule (a : Action) : Except PlanError Rule := do
  let command ← a.readTemplate a.command
  let description ← a.readTemplate a.description
  let depfile ← a.depfile?.mapM fun (text, _) => a.readTemplate text
  return {
    name := a.name
    command := command
    description := some description
    depfile := depfile
    deps := a.depfile?.map Prod.snd
    generator := a.isGenerator }

end Action

/-- The rules of all four actions. -/
structure StandardRules where
  compile : Rule
  link : Rule
  /-- Generate a source file. -/
  codegen : Rule
  /-- Make the build file again. -/
  regenerate : Rule
deriving DecidableEq

namespace StandardRules

def read : Except PlanError StandardRules := do
  let compile ← Action.compile.rule
  let link ← Action.link.rule
  let codegen ← Action.codegen.rule
  let regenerate ← Action.regenerate.rule
  return ⟨compile, link, codegen, regenerate⟩

def get (rules : StandardRules) : Action → Rule
  | .compile => rules.compile
  | .link => rules.link
  | .codegen => rules.codegen
  | .regenerate => rules.regenerate

example : (read.toOption.map fun rules => rules.compile.placeholders) =
    some ["cxx", "out", "cflags", "in", "out", "in", "out"] := by
  decide +kernel

end StandardRules

end BuildPlan
