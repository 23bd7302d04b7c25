import BuildPlan.Files.Tree
import BuildPlan.Shell.Quote

/-!
# Commands and what comes of them

The toolchain is asked for its flags by running a helper program. A `Command` is a program and its
arguments, never a line for a shell; `Command.display` shows it as such a line all the same.

* `Failure` is why a command gave no usable output.
* `Reply` is what came of a command: its standard output, or a failure.
* `Responder` answers commands in the order in which they are given; `Responder.ofReplies` answers from
  a list.
-/

namespace BuildPlan

/-- A program and the arguments to run it with. -/
structure Command where
  program : Path
  /-- The arguments after the program name. -/
  arguments : List String
deriving DecidableEq

namespace Command

/-- The program and the arguments as one list of words. -/
def words (c : Command) : List String := c.program.text :: c.arguments

/-- The command as a line for the shell. Words that no shell could be given are shown as they
are, all of them. -/
def display (c : Command) : String :=
  (Shell.quoteAll? c.words).getD (" ".intercalate c.words)

example : display ⟨⟨"/opt/my tools/x"⟩, ["--libs", "core"]⟩ = "'/opt/my tools/x' --libs core" := by
  decide
example : display ⟨⟨"a b"⟩, ["c\x00d"]⟩ = "a b c\x00d" := by decide

end Command

/-- Why a command gave no usable output. -/
inductive Failure where
  /-- It could not be started. -/
  | launch (reason : String)
  /-- It ended without success: its exit status, unless a signal ended it, and what it wrote to
  standard error. -/
  | exit (status : Option Int) (stderr : String)
  /-- Its standard output is not text. -/
  | notText
deriving DecidableEq

namespace Failure

def message : Failure → String
  | .launch reason => "could not launch process: " ++ reason
  | .exit status stderr =>
    let ending := match status with
      | some n => "exited with status " ++ toString n
      | none => "terminated by signal"
    if stderr.isEmpty then ending else ending ++ ": " ++ stderr
  | .notText => "process wrote non UTF-8 output"

/-- The texts of what lies behind a failure. -/
def causes : Failure → List String
  | .launch reason => [reason]
  | .exit _ _ => []
  | .notText => []

example : (exit (some 2) "unknown option").message = "exited with status 2: unknown option" := by
  decide
example : (exit none "").message = "terminated by signal" := by decide

end Failure

/-- What came of a command. -/
abbrev Reply := Except Failure String

/-- Something that answers commands. Answering may change the files. -/
structure Responder where
  /-- The files afterwards and the answer to the command that has that many commands before it. -/
  answer : FileTree → Nat → Command → FileTree × Reply
  /-- Each command is announced in the log before it is run. -/
  announces : Bool

namespace Responder

/-- The replies of a list in turn, and empty output after them. The files stay as they are. -/
def ofReplies (replies : List Reply) : Responder where
  answer tree n _ := (tree, replies[n]?.getD (.ok ""))
  announces := false

/-- Answering leaves the files alone. -/
def LeavesFiles (r : Responder) : Prop := ∀ tree n c, (r.answer tree n c).1 = tree

theorem leavesFiles_ofReplies (replies : List Reply) : (ofReplies replies).LeavesFiles :=
  fun _ _ _ => rfl

end Responder

end BuildPlan
