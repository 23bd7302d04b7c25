import BuildPlan.CommandLine
import BuildPlan.Helper.Launch
import BuildPlan.Run

/-!
# The program

The program reads its command line, runs, and reports. Its manifest is that of the `neatc` compiler
and its root is the working directory.

* `Program.start` is the whole, from the words and the files to what is printed, the exit status, the
  events shown and the files afterwards.

Exit status 2 stands for a wrong command line and 1 for a run that failed or could not be reported. A
report that cannot be written does not undo the run.
-/

namespace BuildPlan

/-- What the program finds when it is started. -/
structure Start where
  /-- The words after the program name. -/
  words : List Word
  /-- The search path of the environment. -/
  path : Option (List UInt8)
  workingDirectory : Path
  /-- The path of the program itself. -/
  executable : Path
  tree : FileTree
  /-- Standard output takes nothing. -/
  outputFull : Bool := false

structure Finish where
  status : Nat
  /-- What is on standard output. -/
  stdout : String := ""
  /-- What is on standard error, the events aside. -/
  stderr : String := ""
  /-- The events shown, as they are printed. -/
  events : List Event := []
  tree : FileTree

namespace Program

def passthroughEvent (words : List String) : Event :=
  ⟨.debug, "recording uninterpreted arguments words=" ++ Quoted.list words⟩

def failureEvent (e : RunError) : Event := ⟨.error, "configure failed\n" ++ e.code⟩

/-- The event about a report that could not be written. -/
def unreportedEvent : Event :=
  ⟨.error, "could not report result error=No space left on device (os error 28)"⟩

/-- The report of a run that succeeded. -/
def report (p : Path) : String := "wrote " ++ p.text ++ ".\n"

def request (s : Start) (c : CommandLine) : Request where
  search := SearchPath.ofEnvironment s.path (some s.workingDirectory)
  manifest := Manifest.neatc
  settings := c.settings
  invocation := ⟨s.executable, s.words.map Word.text, c.output⟩
  root := ⟨"."⟩

def openingEvents (s : Start) (c : CommandLine) : List Event :=
  (if c.passthrough.isEmpty then [] else [passthroughEvent c.passthrough]) ++
    SearchPath.environmentEvents s.path

def printed (c : CommandLine) (events : List Event) : List Event :=
  (Log.visible c.verbose events).map Log.tame

/-- Run for a command line and report. -/
def proceed (s : Start) (c : CommandLine) (r : Responder) (w : Stager) : Finish :=
  let outcome := (request s c).run s.tree r w
  let before := openingEvents s c ++ outcome.events
  match outcome.result with
  | .error e =>
    { status := 1
      events := printed c (before ++ [failureEvent e])
      tree := outcome.tree }
  | .ok p =>
    if s.outputFull then
      { status := 1
        events := printed c (before ++ [unreportedEvent])
        tree := outcome.tree }
    else
      { status := 0
        stdout := report p
        events := printed c before
        tree := outcome.tree }

/-- Start the program. -/
def start (s : Start) (r : Responder) (w : Stager) : Finish :=
  match CommandLine.read s.words with
  | .error stop =>
    if stop.isAnswer then
      { status := 0, stdout := if s.outputFull then "" else stop.message, tree := s.tree }
    else { status := 2, stderr := stop.message, tree := s.tree }
  | .ok c => proceed s c r w

end Program

end BuildPlan
