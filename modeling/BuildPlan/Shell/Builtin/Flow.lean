import BuildPlan.Shell.Builtin.Basic
import BuildPlan.Shell.Programs
import BuildPlan.Shell.Redirecting

/-!
# Builtins that direct a shell

`break`, `continue`, `return`, `exit`, `eval`, `.`, `trap`, `kill`, `wait` and `jobs`.
-/

namespace BuildPlan

namespace Shell

open Step (session modifySession setStatus)

namespace Builtin

/-! ### Leaving -/

/-- Leave loops, or go on with their next round. Outside of loops nothing happens. -/
def leaveLoops (stop : Nat → Stop) (arguments : List (List Char)) : Step Unit := do
  let n ← match arguments with
    | [] => pure 1
    | w :: _ => do
      let n ← count w
      if n = 0 then Step.fail ("Illegal number: ".toList ++ w) else pure n
  setStatus 0
  let s ← session
  if s.loops = 0 then return
  else throw (stop (min n s.loops))

/-- Leave a function or a script in the same shell. -/
def leaveFunction (arguments : List (List Char)) : Step Unit := do
  match arguments with
  | [] => throw .returned
  | w :: _ =>
    setStatus (← count w)
    throw .returned

def exit (arguments : List (List Char)) : Step Unit := do
  match arguments with
  | [] => throw .finished
  | w :: _ =>
    setStatus ((← count w) % 256)
    throw .finished

variable (p : Powers)

/-- Run the arguments as a script. -/
def eval (m : Manner) (arguments : List (List Char)) : Step Unit := do
  if arguments.isEmpty then setStatus 0
  else
    let before := (← session).status
    let text := Letters.spaced arguments
    if text.all fun c => c == ' ' || c == '\t' || c == '\n' then setStatus 0
    else
      setStatus before
      Lines.run p { isTested := m.isTested } text

/-- Run a file as a script in the same shell. -/
def runFile (arguments : List (List Char)) : Step Unit := do
  match arguments with
  | [] => setStatus 0
  | name :: _ =>
    let path ← if name.contains '/' then pure name else findScript name (← session).searchPath
    match (← Step.world).open? (← session).directory 0 path { reads := true } with
    | .error o =>
      Step.fail ("cannot open ".toList ++ path ++ ": ".toList ++ (Redirecting.why false o).toList)
    | .ok (w, channel) =>
      let text := Lines.cleaned (w.available channel)
      setStatus 0
      modifySession fun s => { s with builtin := some path }
      tryCatch (Lines.run p {} text true) fun
        | .returned => return
        | stop => throw stop
where
  /-- Look a script up in directories. -/
  findScript (name : List Char) : List (List Char) → Step (List Char)
    | [] => Step.fail (name ++ ": not found".toList)
    | directory :: rest => do
      let path := Programs.inside directory name
      match ← Step.entryAt? path with
      | some (.file _ _) => return path
      | _ => findScript name rest

/-! ### Signals and processes -/

/-- The name that `trap` lists a signal by. -/
def signalName (n : Nat) : List Char :=
  if n = 0 then "EXIT".toList else ((Signal.name? n).getD (toString n)).toList

/-- Set what one signal does. -/
def trapOne (action : Option (List Char)) (w : List Char) : Step Bool := do
  match Signal.ofText? w with
  | none =>
    Step.putError ("trap: ".toList ++ w ++ ": bad trap\n".toList)
    setStatus 1
    return false
  | some n =>
    modifySession fun s => s.setTrap n action
    return true

/-- Set what signals do, up to the first that is none. -/
def trapAll (action : Option (List Char)) : List (List Char) → Step Unit
  | [] => return
  | w :: rest => do
    if ← trapOne action w then trapAll action rest

/-- Set what signals do, or list it. -/
def trap (arguments : List (List Char)) : Step Unit := do
  let (_, words) ← optionsOf "" arguments
  setStatus 0
  match words with
  | [] =>
    let traps := (← session).traps.mergeSort fun a b => a.1 ≤ b.1
    emitLines (traps.map fun (n, action) =>
      "trap -- ".toList ++ inQuotes action ++ [' '] ++ signalName n)
  | [w] => trapAll none [w]
  | w :: rest =>
    if (Signal.ofText? w).isSome then trapAll none (w :: rest)
    else trapAll (if w = ['-'] then none else some w) rest

def killUsage : List Char :=
  "Usage: kill [-s sigspec | -signum | -sigspec] [pid | job]... or\nkill -l [exitstatus]".toList

/-- Send a signal to a process. -/
def killOne (signal : Nat) (w : List Char) : Step Unit := do
  match w with
  | '%' :: text =>
    match (← session).job? text with
    | some job => do
      let _ ← Step.send job.process signal
    | none => Step.fail ("No such job: ".toList ++ w)
  | _ =>
    let process ← count w
    if process = 1 then
      Step.complain "Operation not permitted\n".toList
      setStatus 1
    else if !(← Step.send process signal) then
      Step.complain "No such process\n".toList
      setStatus 1

/-- Send a signal to processes. -/
def killAll (signal : Nat) (words : List (List Char)) : Step Unit :=
  if words.isEmpty then Step.fail killUsage
  else do
    setStatus 0
    words.forM (killOne signal)

def listSignals (words : List (List Char)) : Step Unit := do
  match words with
  | [] =>
    let numbered (n : Nat) : List Char :=
      match Signal.name? n with
      | some name => name.toList
      | none =>
        if n = 0 then ['0'] else if n = 34 then "RTMIN".toList else if n = 64 then "RTMAX".toList
        else if n < 34 then Letters.ofNat n
        else if n ≤ 49 then "RTMIN+".toList ++ Letters.ofNat (n - 34)
        else "RTMAX-".toList ++ Letters.ofNat (64 - n)
    setStatus 0
    emitLines ((List.range 65).map numbered)
  | w :: _ =>
    let n ← count w
    let n := if 128 < n then n - 128 else n
    match Signal.name? n with
    | some name =>
      setStatus 0
      emitLines [name.toList]
    | none => Step.fail ("invalid signal number or exit status: ".toList ++ w)

/-- Send a signal, or list signals. -/
def kill (arguments : List (List Char)) : Step Unit := do
  match arguments with
  | [] => Step.fail killUsage
  | w :: rest =>
    let given := match w with
      | '-' :: name => Signal.ofText? name
      | _ => none
    match given with
    | some signal => if w = ['-', '0'] ∨ signal ≠ 0 then killAll signal rest else Step.fail killUsage
    | none =>
      let (options, words) ← optionsOf "ls:" arguments
      if options.any fun o => o.1 == 'l' then listSignals words
      else
        match (options.filter fun o => o.1 == 's').getLast? with
        | none => killAll Signal.terminate words
        | some (_, name) =>
          match Signal.ofText? name with
          | some signal => killAll signal words
          | none => Step.fail ("invalid signal number or name: ".toList ++ name)

/-- Wait until a process has ended. -/
def waitFor (job : Job) : Step Unit := do
  Step.modifyWorld fun w => { w with time := max w.time job.time }
  modifySession fun s =>
    { s with jobs := s.jobs.map fun j => if j.number = job.number then { j with isWaited := true } else j }
  setStatus (← Step.await job.ending)

def wait (arguments : List (List Char)) : Step Unit := do
  let (_, words) ← optionsOf "" arguments
  if words.isEmpty then
    let s ← session
    Step.modifyWorld fun w => { w with time := s.jobs.foldl (fun t j => max t j.time) w.time }
    modifySession fun s => { s with jobs := s.jobs.map fun j => { j with isWaited := true } }
    setStatus 0
  else
    words.forM fun w => do
      match w with
      | '%' :: text =>
        match (← session).job? text with
        | some job => waitFor job
        | none => Step.fail ("No such job: ".toList ++ w)
      | _ =>
        let process ← count w
        match (← session).jobs.find? fun j => j.process = process with
        | some job => waitFor job
        | none => setStatus 127

/-- List the processes that are not waited for. Those that have ended are forgotten. -/
def jobs : Step Unit := do
  let now := (← Step.world).time
  let all := (← session).jobs
  setStatus 0
  modifySession fun s => { s with jobs := s.jobs.filter fun j => decide (now < j.time) }
  emitLines (all.zipIdx.map fun (job, i) =>
    let sign := if i = 0 then '+' else if i = 1 then '-' else ' '
    let state := if now < job.time then "Running".toList else match job.ending with
      | .status 0 => "Done".toList
      | .status n => "Done(".toList ++ Letters.ofNat n ++ [')']
      | .signal n => ((Signal.description n).getD "").toList
    let start := ['['] ++ Letters.ofNat job.number ++ [']', ' ', sign, ' '] ++ state
    start ++ List.replicate (33 - start.length) ' ')

end Builtin

end Shell

end BuildPlan
