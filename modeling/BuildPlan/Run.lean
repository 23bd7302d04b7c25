import BuildPlan.BuildFile
import BuildPlan.Files.Replace
import BuildPlan.Graph.Record
import BuildPlan.Plan.Regeneration
import BuildPlan.Toolchain.Probe

/-!
# A run

A run finds the toolchain's helper, asks it for its flags, checks the manifest, drafts and finishes the
graph, writes it as a build file and replaces the file at the output path.

* `Request.probed` is what the helper says, and the files as it leaves them.
* `Request.graph` is the graph of a request, or the first thing that goes wrong.
* `Request.generate` is the text of its build file.
* `Request.run` is the whole: the result, the file tree afterwards, the commands given and the events.
  Nothing is written unless all that comes before has succeeded, whatever the helper itself does.
-/

namespace BuildPlan

/-- All that a run depends on besides the files and the helper. -/
structure Request where
  /-- Where to look for the helper. -/
  search : SearchPath
  manifest : Manifest
  settings : Settings
  /-- How the program was called. -/
  invocation : Invocation
  /-- The directory that the manifest's paths and the build file are relative to. -/
  root : Path
deriving DecidableEq

/-- What came of a run. -/
structure Outcome where
  /-- The path of the build file as it was given, or what went wrong. -/
  result : Except RunError Path
  tree : FileTree
  /-- The commands given to the helper. -/
  commands : List Command := []
  events : List Event := []

namespace Request

def helper (q : Request) (tree : FileTree) : Except RunError Path :=
  Toolchain.locate q.search tree Toolchain.candidates

/-- Check the manifest against the files and the build file against the manifest. -/
def check (q : Request) (tree : FileTree) : Except PlanError Unit := do
  q.manifest.validate tree q.root
  q.manifest.checkBuildFile q.root q.invocation.buildFile

/-- All declarations of the graph, in order. -/
def declarations (q : Request) (rules : StandardRules) (flags : ToolchainFlags) :
    List (Except PlanError Declaration) :=
  (Assembly.declarations rules flags q.manifest q.settings).map .ok ++ q.invocation.declarations rules

/-- Draft the graph and finish it. -/
def drafted (q : Request) (flags : ToolchainFlags) : Except PlanError Graph := do
  let rules ← StandardRules.read
  match ({} : Draft).perform (q.declarations rules flags) with
  | (_, some fault) => .error fault
  | (draft, none) => draft.finish

/-- The flags that the helper gives, and the files after it has been asked. -/
def probed (q : Request) (tree : FileTree) (r : Responder) : Except RunError ToolchainFlags × FileTree :=
  match q.helper tree with
  | .error fault => (.error fault, tree)
  | .ok helper => (Toolchain.probe r helper).run tree

/-- The graph of a request. The files are looked at as the helper leaves them. -/
def graph (q : Request) (tree : FileTree) (r : Responder) : Except RunError Graph := do
  let flags ← (q.probed tree r).1
  (do q.check (q.probed tree r).2; q.drafted flags : Except PlanError Graph).mapError RunError.plan

/-- The text of the build file of a request. -/
def generate (q : Request) (tree : FileTree) (r : Responder) : Except RunError String :=
  (q.graph tree r).map BuildFile.text

/-- Where the build file is written. -/
def target (q : Request) : Path := q.root.join q.invocation.buildFile

/-- The event of having finished the graph. -/
def graphEvent (g : Graph) : Event := ⟨.debug, "Build graph:\n" ++ g.toJson.pretty⟩

def writtenEvent (p : Path) : Event := ⟨.info, "Wrote Ninja file to " ++ p.text⟩

/-- The event of being through. -/
def generatedEvent (p : Path) : Event := ⟨.info, "Generated " ++ p.text⟩

/-- The commands given to the helper. -/
def commands (q : Request) (tree : FileTree) (r : Responder) : List Command :=
  match q.helper tree with
  | .error _ => []
  | .ok helper => Toolchain.commands r helper tree

/-- The events of finding the helper and asking it. -/
def probingEvents (q : Request) (tree : FileTree) (r : Responder) : List Event :=
  match q.helper tree with
  | .error _ => []
  | .ok helper => Toolchain.foundEvent helper :: Toolchain.events r helper tree

/-- Replace the build file with the text of a graph. -/
def emit (q : Request) (tree : FileTree) (w : Stager) (g : Graph) : Outcome :=
  match tree.replaceFile w q.target (Utf8.encode (BuildFile.text g)) with
  | (after, some obstacle) =>
    { result := .error (.emissionFailed q.target obstacle.message)
      tree := after
      events := [graphEvent g] }
  | (after, none) =>
    { result := .ok q.invocation.buildFile
      tree := after
      events := [graphEvent g, writtenEvent q.target, generatedEvent q.invocation.buildFile] }

/-- Generate the build file and replace it. -/
def run (q : Request) (tree : FileTree) (r : Responder) (w : Stager) : Outcome :=
  let left := (q.probed tree r).2
  let given := q.commands tree r
  let told := q.probingEvents tree r
  match q.graph tree r with
  | .error fault => ⟨.error fault, left, given, told⟩
  | .ok g =>
    let emitted := q.emit left w g
    { emitted with commands := given, events := told ++ emitted.events }

end Request

end BuildPlan
