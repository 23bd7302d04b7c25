import BuildPlan.Error
import BuildPlan.Plan.Assembly
import BuildPlan.Toolchain.SearchPath

/-!
# Asking the toolchain

A helper program knows which flags a program needs to be compiled and linked against the toolchain's
libraries. It is looked for on the search path and asked three questions in turn.

* `Toolchain.locate` finds the helper.
* `Toolchain.probe` asks it for compile flags, link flags and libraries. The first question that gets
  no answer ends it. The files may be others afterwards.
* `Toolchain.commands` lists the commands given on the way, the failing one included.
* `Toolchain.normalise` is what becomes of an answer: its words with single spaces between them.
-/

namespace BuildPlan

namespace Toolchain

/-- The names that the helper goes by, in the order in which they are tried. -/
def candidates : List String := ["llvm-config", "llvm-config-3.1"]

/-- The components of the toolchain that are linked. -/
def components : List String := ["core", "object", "scalaropts"]

/-- A question for the helper. -/
inductive Query where
  | compile
  | link
  | libraries
deriving DecidableEq

/-- The arguments that put a question. -/
def Query.arguments : Query → List String
  | .compile => ["--cflags"]
  | .link => ["--ldflags"]
  | .libraries => "--libs" :: components

/-- The command that puts a question to the helper. -/
def Query.command (q : Query) (helper : Path) : Command := ⟨helper, q.arguments⟩

/-- An answer with its white space reduced to single spaces between words. -/
def normalise (answer : String) : String :=
  String.ofList (Text.unwords (Text.words answer.toList))

/-- Find the helper among some candidates. -/
def locate (search : SearchPath) (tree : FileTree) (names : List String) : Except RunError Path :=
  match search.find? tree names with
  | some helper => .ok helper
  | none => .error (.toolchainNotFound names search.directories)

def foundEvent (helper : Path) : Event := ⟨.info, "Found toolchain helper at " ++ helper.text⟩

/-- Asking goes on from answer to answer, and so do the files. -/
abbrev Asking := ExceptT RunError (StateM FileTree)

/-- Put a question to the helper, so many commands after the first. -/
def ask (r : Responder) (helper : Path) (before : Nat) (q : Query) : Asking String := do
  let (tree, reply) := r.answer (← get) before (q.command helper)
  set tree
  match reply with
  | .ok answer => return normalise answer
  | .error failure => throw (.queryFailed (q.command helper).display failure)

/-- Ask the helper for all flags. -/
def probe (r : Responder) (helper : Path) : Asking ToolchainFlags := do
  let compile ← ask r helper 0 .compile
  let link ← ask r helper 1 .link
  let libraries ← ask r helper 2 .libraries
  return ⟨compile, link, libraries⟩

/-- The commands of questions put in turn, up to the first that gets no answer. -/
def commandsFrom (r : Responder) (helper : Path) (before : Nat) (tree : FileTree) :
    List Query → List Command
  | [] => []
  | q :: rest =>
    q.command helper ::
      match (ask r helper before q).run tree with
      | (.ok _, after) => commandsFrom r helper (before + 1) after rest
      | (.error _, _) => []

/-- The commands given while probing. -/
def commands (r : Responder) (helper : Path) (tree : FileTree) : List Command :=
  commandsFrom r helper 0 tree [.compile, .link, .libraries]

def announcement (c : Command) : Event := ⟨.info, "Running command: " ++ c.display⟩

def events (r : Responder) (helper : Path) (tree : FileTree) : List Event :=
  if r.announces then (commands r helper tree).map announcement else []

example : normalise "  -I/a\n\t-I/b \u00a0" = "-I/a -I/b" := by decide

end Toolchain

end BuildPlan
