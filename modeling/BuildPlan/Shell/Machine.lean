import BuildPlan.Shell.Field
import BuildPlan.Shell.Session

/-!
# Steps of a shell

A step of a shell works on a `Machine`: what processes share, and the session of the process under way.
A step either comes to its end or stops with a `Stop`, and in both cases what it changed stays changed.

* `Step.put` writes to a descriptor, `Step.takeAll` reads from one.
* `Step.complain` writes a complaint, `Step.fail` does that and stops.
* `Step.fork` runs a step in a process of its own: its session is gone afterwards.
* `Step.send` sends a signal.

`Powers` are what scripts and programs need of each other: commands run programs, programs such as the
shell itself run commands, and words run both. They are handed down, one level of depth at a time.
-/

namespace BuildPlan

namespace Shell

/-- What a step works on. -/
structure Machine where
  world : World
  /-- The session of the process under way. -/
  session : Session

/-- Why a step stops before its end. -/
inductive Stop where
  /-- The process ends with the status of its session. -/
  | finished
  /-- An error ends the command, and the shell unless the command is an ordinary one. -/
  | failed
  /-- A signal ends the process. -/
  | signalled (n : Nat)
  | broken (loops : Nat)
  /-- So many loops go on with the next round. -/
  | continued (loops : Nat)
  /-- A function or a script in the same shell ends. -/
  | returned
  /-- The bound on how deep steps may lie in each other is reached. -/
  | exhausted
deriving DecidableEq

abbrev Step := ExceptT Stop (StateM Machine)

namespace Step

/-- The session of the process under way. -/
def session : Step Session := return (← get).session

def modifySession (f : Session → Session) : Step Unit :=
  modify fun m => { m with session := f m.session }

def world : Step World := return (← get).world

/-- Change what processes share. -/
def modifyWorld (f : World → World) : Step Unit := modify fun m => { m with world := f m.world }

def setStatus (n : Nat) : Step Unit := modifySession fun s => { s with status := n }

/-- Run a step and then another, which is also run if the first stops. -/
def afterwards {α : Type} (step : Step α) (after : Step Unit) : Step α := do
  let result ← tryCatch (do return Except.ok (← step)) fun stop => return Except.error stop
  after
  match result with
  | .ok a => return a
  | .error stop => throw stop

/-! ### Signals -/

/-- A signal reaches the process under way. -/
def receive (signal : Nat) : Step Unit := do
  let s ← session
  if signal = Signal.kill then throw (.signalled signal)
  match s.trap? signal with
  | some [] => return
  | some _ => modifySession fun s => { s with pending := s.pending ++ [signal] }
  | none => if Signal.ends signal then throw (.signalled signal)

/-- The signals on their way to the process under way reach it. -/
def receiveAll : Step Unit := do
  let s ← session
  let mine := (← world).signals.filter fun x => x.1 = s.process
  modifyWorld fun w => { w with signals := w.signals.filter fun x => x.1 ≠ s.process }
  mine.forM fun x => receive x.2

/-- Send a signal to a process. What comes back says whether there is such a process. -/
def send (process signal : Nat) : Step Bool := do
  let s ← session
  if process = s.process then
    if signal ≠ 0 then receive signal
    return true
  else if s.ancestors.contains process then
    if signal ≠ 0 then
      modifyWorld fun w => { w with signals := w.signals ++ [(process, signal)] }
    return true
  else
    match s.jobs.find? fun j => j.process = process with
    | none => return false
    | some job =>
      let now := (← world).time
      if now < job.time && Signal.ends signal then
        modifySession fun s =>
          { s with
            jobs := s.jobs.map fun j =>
              if j.process = process then { j with ending := .signal signal, time := now } else j }
      return true

/-! ### Reading and writing -/

/-- Write to a descriptor. What comes back is what stood in the way. -/
def put (descriptor : Nat) (text : List Char) : Step (Option WriteFault) := do
  match (← session).channel? descriptor with
  | none => return some .badDescriptor
  | some channel =>
    let m ← get
    let (w, fault) := m.world.write channel text
    set { m with world := w }
    if fault = some .unread then
      receive Signal.pipe
    return fault

/-- Write to standard error, whether it can be written or not. -/
def putError (text : List Char) : Step Unit := do
  let _ ← put 2 text

/-- All that can be read from a descriptor. Nothing comes back if it is not open for reading. -/
def takeAll (descriptor : Nat) : Step (Option (List Char)) := do
  match (← session).channel? descriptor with
  | none => return none
  | some channel =>
    let w ← world
    if !((w.channels[channel]?).any fun c => c.reads) then return none
    let text := w.available channel
    modifyWorld fun w => w.advance channel text.length
    return some text

/-- What can be read from a descriptor, without taking it. -/
def lookAhead (descriptor : Nat) : Step (Option (List Char)) := do
  match (← session).channel? descriptor with
  | none => return none
  | some channel =>
    let w ← world
    if !((w.channels[channel]?).any fun c => c.reads) then return none
    return some (w.available channel)

/-- Take so many characters from a descriptor. -/
def skip (descriptor n : Nat) : Step Unit := do
  match (← session).channel? descriptor with
  | none => return
  | some channel => modifyWorld fun w => w.advance channel n

def addChannel (c : Channel) : Step Nat := do
  let (w, n) := (← world).addChannel c
  modifyWorld fun _ => w
  return n

/-- Add a pipe: its end for reading and its end for writing. -/
def addPipe (limit : Option Nat := none) (content : List Char := []) : Step (Nat × Nat) := do
  let (w, front, back) := (← world).addPipe limit content
  modifyWorld fun _ => w
  return (front, back)

/-- All that has been written to a pipe and not been read. -/
def drain (front : Nat) : Step (List Char) := do
  let text := (← world).available front
  modifyWorld fun w => w.advance front text.length
  return text

/-! ### Paths -/

def resolve (path : List Char) : Step (Except Obstacle Location) :=
  return (← world).resolve (← session).directory path

/-- Where a path leads, or would lead if something were made there. -/
def place (path : List Char) : Step (Except Obstacle Location) :=
  return (← world).place (← session).directory path

/-- What a path leads to, if it leads anywhere. -/
def entryAt? (path : List Char) : Step (Option Entry) :=
  return (← world).entryAt? (← session).directory path

def modifyTree (f : FileTree → FileTree) : Step Unit :=
  modifyWorld fun w => { w with tree := f w.tree }

/-! ### Complaints -/

/-- A complaint about the command under way. -/
def complaint (s : Session) (text : List Char) : List Char :=
  s.name ++ ": ".toList ++ Letters.ofNat s.line ++ ": ".toList ++
    (match s.builtin with
      | some b => b ++ ": ".toList
      | none => []) ++ text ++ ['\n']

/-- Write a complaint to standard error. -/
def complain (text : List Char) : Step Unit := do putError (complaint (← session) text)

/-- Write a complaint and stop. -/
def fail {α : Type} (text : List Char) (status : Nat := 2) : Step α := do
  complain text
  setStatus status
  throw .failed

/-! ### Processes -/

/-- Run a step in a process of its own and see how it ends. -/
def fork (step : Step Unit) : Step Ending := do
  let s ← session
  let number := (← world).lastProcess + 1
  modifyWorld fun w => { w with lastProcess := number }
  modifySession fun s =>
    { s with process := number, ancestors := s.process :: s.ancestors, jobs := [], pending := [] }
  let stop ← tryCatch (do step; return none) fun stop => return some stop
  let ended := (← session).status
  modifySession fun _ => { s with pending := s.pending }
  match stop with
  | some .exhausted => throw .exhausted
  | some (.signalled n) => return .signal n
  | _ => return .status ended

/-- Report a process that a signal has ended. -/
def report (e : Ending) : Step Unit :=
  match e with
  | .status _ => return
  | .signal n =>
    match Signal.description n with
    | some text => putError (text.toList ++ ['\n'])
    | none => return

/-- Wait for a process that has ended: its status as a shell sees it. -/
def await (e : Ending) : Step Nat := do
  report e
  receiveAll
  return e.seen

end Step

/-- How a script is run. -/
structure Manner where
  /-- The process has nothing to do afterwards. -/
  isLast : Bool := false
  /-- Its status is looked at, so that a failure is no reason to leave the shell. -/
  isTested : Bool := false

/-- How the tildes of a word are taken. -/
inductive Tildes where
  | none
  | start
  | colons
deriving DecidableEq

/-- What scripts and programs need of each other. -/
structure Powers where
  run : Manner → Script → Step Unit
  expand : Tildes → List Piece → Step (List Bit)
  /-- Run the program at a path with its words in place of the process under way. What comes back is why
  it could not be run. -/
  launch : List Char → List (List Char) → Step Obstacle

end Shell

end BuildPlan
