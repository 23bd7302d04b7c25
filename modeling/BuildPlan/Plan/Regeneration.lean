import BuildPlan.Graph.Draft
import BuildPlan.Plan.StandardRules
import BuildPlan.Shell.Quote

/-!
# Regeneration

The build file records how it was made and has an edge that makes it again. The program and its
arguments are bound to two variables, written for the shell, so that the command `$configure
$configure_args` runs the program with those very words.

* `Invocation` is how the program was called and which build file it writes.
* `Invocation.quotedProgram` and `Invocation.quotedArguments` are the two values. A word with a NUL
  cannot be written for the shell; the first such word is named.
* `Invocation.declarations` lists the two variables, the rule and the edge. The program is an
  implicit input of the edge, so it never appears in `$in`.
-/

namespace BuildPlan

/-- How the program was called. -/
structure Invocation where
  program : Path
  /-- The words after the program name. -/
  arguments : List String
  buildFile : Path
deriving DecidableEq

namespace Invocation

def programVariable : String := "configure"

def argumentsVariable : String := "configure_args"

/-- A word written for the shell. -/
def quote (word : String) : Except PlanError String :=
  match Shell.quote? word with
  | some quoted => .ok quoted
  | none => .error (.unquotableArgument word)

/-- The program written for the shell. -/
def quotedProgram (i : Invocation) : Except PlanError String := quote i.program.text

/-- The arguments written for the shell, with one space between two of them. -/
def quotedArguments (i : Invocation) : Except PlanError String :=
  (i.arguments.mapM quote).map (" ".intercalate ·)

/-- The edge that makes the build file. -/
def edge (i : Invocation) : Edge where
  rule := Action.regenerate.name
  outputs := [i.buildFile]
  inputs := []
  implicitInputs := [i.program]

/-- All declarations in order, each possibly at fault. -/
def declarations (i : Invocation) (rules : StandardRules) : List (Except PlanError Declaration) :=
  [i.quotedProgram.map (.variable programVariable),
   i.quotedArguments.map (.variable argumentsVariable),
   .ok (.rule (rules.get .regenerate)),
   .ok (.edge i.edge)]

example : (quotedArguments ⟨⟨"x"⟩, ["-o", "a b"], ⟨"y"⟩⟩).toOption = some "-o 'a b'" := by decide
example : quotedArguments ⟨⟨"x"⟩, [], ⟨"y"⟩⟩ matches .ok "" := by decide

end Invocation

end BuildPlan
