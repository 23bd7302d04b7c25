import BuildPlan.Process.FirstLine
import BuildPlan.Shell.Evaluation
import BuildPlan.Shell.Startup
import BuildPlan.Tool.Catalog

/-!
# Executing programs

What can be executed are the tools, the shell among them, and scripts whose first line names something
that can be executed.

* `Execution.execute` executes the file at a path in place of the process under way.
* `Execution.powers` ties the knot between scripts and programs, to a depth.
* `Execution.run` executes a file in the first process: how it ends, what it prints, and the files
  afterwards, or why it cannot be executed.

The tools are put among the files for as long as programs run, and so are the directories that every
system has. Afterwards the files are as they were but for those that programs may change.
-/

namespace BuildPlan

open Shell (Ending Powers Session Step Stop)

namespace Execution

/-! ### One program -/

/-- Make the session of a process that of a program that is no shell. -/
def settle (s : Session) : Session :=
  { s with
    builtin := none
    bindings := s.bindings.filter fun b => b.2.isExported
    traps := s.traps.filter fun t => t.2.isEmpty
    pending := []
    jobs := []
    functions := []
    aliases := []
    options := [] }

/-- Run a tool in place of the process under way. -/
def runTool (p : Powers) (name : String) (words : List (List Char)) : Step Obstacle := do
  match Tool.named? p name with
  | some tool =>
    Step.modifySession settle
    tool (words.headD name.toList) (words.drop 1)
  | none => Shell.Startup.run p words
  throw .finished

/-- Execute the file at a path in place of the process under way. What comes back is why it cannot be
executed. The number bounds how many scripts name each other as interpreters. -/
def execute (p : Powers) : Nat → List Char → List (List Char) → Step Obstacle
  | 0, _, _ => return .endless
  | bound + 1, path, words => do
    match ← Step.resolve path with
    | .error o => return o
    | .ok loc =>
      match (← Step.world).tree.at? loc with
      | none => return .missing
      | some .directory => return .denied
      | some (.file content mode) =>
        if mode &&& Entry.runBit = 0 then return .denied
        else
          match Tool.nameAt? loc with
          | some name => runTool p name words
          | none =>
            match FirstLine.ofText? (Letters.ofBytes (content.take (FirstLine.window + 2))) with
            | none => return .badFormat
            | some line =>
              execute p bound line.interpreter
                (line.interpreter :: line.argument.toList ++ path :: words.drop 1)

/-- How many scripts may name each other as interpreters. -/
def interpreterLimit : Nat := 6

/-- What scripts and programs need of each other, so deep. -/
def powers : Nat → Powers
  | 0 =>
    { run := fun _ _ => throw .exhausted
      expand := fun _ _ => throw .exhausted
      launch := fun _ _ => throw .exhausted }
  | depth + 1 =>
    let p := powers depth
    { run := Shell.Evaluation.run p
      expand := Shell.Expansion.bits p
      launch := execute p interpreterLimit }

/-- How deep scripts and programs may lie in each other. -/
def depthLimit : Nat := 12000

/-! ### What every system has -/

/-- The directories that every system has. -/
def standingDirectories : List Location :=
  [["bin"], ["dev"], ["etc"], ["home"], ["lib"], ["opt"], ["proc"], ["root"], ["run"], ["sbin"], ["srv"],
    ["sys"], ["tmp"], ["usr"], ["var"], ["bin", "usr"], ["include", "usr"], ["lib", "usr"],
    ["local", "usr"], ["sbin", "usr"], ["share", "usr"], ["bin", "local", "usr"],
    ["sbin", "local", "usr"]]

/-- The devices that every system has. -/
def standingDevices : List Location := [["null", "dev"], ["zero", "dev"], ["full", "dev"]]

def toolContent : List UInt8 := [0x7F, 0x45, 0x4C, 0x46, 0]

def standing : List (Location × Entry) :=
  (standingDirectories.map (·, .directory)) ++
    (standingDevices.map (·, .file [] 0o666)) ++
    (Tool.directories.flatMap fun directory =>
      Tool.names.map fun name => (name :: directory, .file toolContent 0o555))

/-- The files together with what every system has. -/
def furnished (t : FileTree) : FileTree := { t with entries := t.entries ++ standing }

/-- The location is one of those that programs may change. -/
def isChangeable (t : FileTree) (loc : Location) : Bool := ({ tree := t } : World).isOwn loc

/-- The files as they were, with what programs may have changed as it is afterwards. -/
def cleared (before after : FileTree) : FileTree :=
  { before with
    entries := (after.entries.filter fun e => isChangeable before e.1) ++
      before.entries.filter fun e => !isChangeable before e.1 }

/-! ### The first process -/

/-- What came of a program. -/
structure Finished where
  ending : Ending
  /-- What it wrote to standard output. -/
  stdout : List Char
  /-- What it wrote to standard error. -/
  stderr : List Char
  tree : FileTree

/-- What is around the first process: it reads nothing, and what it writes goes to two pipes. -/
def firstWorld (t : FileTree) : World × List (Nat × Nat) × Nat × Nat :=
  let w : World := { tree := furnished t }
  let (w, nothing) := w.addChannel { target := .nothing, writes := false }
  let (w, outFront, out) := w.addPipe
  let (w, errorsFront, errors) := w.addPipe
  (w, [(0, nothing), (1, out), (2, errors)], outFront, errorsFront)

/-- How a process ends that has stopped. A process that lies too deep in others is ended by the
system. -/
def endingOf (s : Session) : Stop → Ending
  | .signalled n => .signal n
  | .exhausted => .signal Signal.violation
  | _ => .status s.status

/-- Execute the file at a path in the first process. -/
def run (t : FileTree) (environment : List (List Char × List Char)) (path : List Char)
    (words : List (List Char)) : Except Obstacle Finished :=
  let (w, descriptors, outFront, errorsFront) := firstWorld t
  let s : Session :=
    { name := words.headD []
      bindings := environment.map fun v => (v.1, { value := some v.2, isExported := true })
      descriptors := descriptors
      directory := t.home }
  let (result, m) := (execute (powers depthLimit) interpreterLimit path words).run ⟨w, s⟩
  match result with
  | .ok o => .error o
  | .error stop =>
    .ok
      { ending := endingOf m.session stop
        stdout := m.world.available outFront
        stderr := m.world.available errorsFront
        tree := cleared t m.world.tree }

end Execution

end BuildPlan
