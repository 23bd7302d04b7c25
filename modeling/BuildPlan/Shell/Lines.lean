import BuildPlan.Shell.Grammar
import BuildPlan.Shell.Machine

/-!
# Running a text

* `Lines.run` runs a text as a script, line by line: what stands before a fault is run before the fault
  is met.
* `Lines.runTraps` runs what is to be run for the signals that have come.
* `Lines.asShell` runs a step as the whole of a shell process: what is to be run at the end is run.
-/

namespace BuildPlan

namespace Shell

open Step (session modifySession setStatus)

namespace Lines

variable (p : Powers)

/-- The characters that have been read between two sources. -/
def between (before after : Source) : List Char :=
  before.rest.take (before.rest.length - after.rest.length)

/-- The text of a script that comes from a file: zeros are passed over. -/
def cleaned (text : List Char) : List Char := text.filter (· ≠ '\x00')

/-- Run the lines of a source, at most so many. The flag says that the lines are shown as they are
read, if the option is set. -/
def go (m : Manner) (shown : Bool) : Nat → Source → Step Unit
  | 0, _ => throw .exhausted
  | bound + 1, source => do
    let s ← session
    let source := { source with aliases := s.aliases, documents := s.documents }
    match Grammar.line.run source with
    | .error complaint =>
      if shown && s.has 'v' then Step.putError source.rest
      modifySession fun s => { s with line := complaint.line }
      Step.fail complaint.text.toList
    | .ok ((command, atEnd), left) =>
      if shown && s.has 'v' then Step.putError (between source left)
      modifySession fun s => { s with documents := left.documents }
      match command with
      | some c =>
        p.run { m with isLast := m.isLast && atEnd } c
        if atEnd then return
      | none => if atEnd then return
      go m shown bound left

def run (m : Manner) (text : List Char) (shown : Bool := false) : Step Unit :=
  go p m shown (text.length + 2) { rest := text }

/-- Run what is to be run for the signals that have come, at most so many. -/
def runTrapsWithin : Nat → Step Unit
  | 0 => return
  | bound + 1 => do
    let s ← session
    match s.pending with
    | [] => return
    | signal :: rest =>
      modifySession fun s => { s with pending := rest }
      match s.trap? signal with
      | some (c :: cs) =>
        let status := s.status
        run p {} (c :: cs)
        setStatus status
      | _ => pure ()
      runTrapsWithin bound

/-- Run what is to be run for the signals that have come. -/
def runTraps : Step Unit := runTrapsWithin p 64

/-- Run a step as the whole of a shell process. -/
def asShell (step : Step Unit) : Step Unit := do
  let settle (stop : Stop) : Step Unit :=
    match stop with
    | .exhausted => throw .exhausted
    | .signalled n => throw (.signalled n)
    | _ => return
  tryCatch step settle
  let s ← session
  match s.trap? 0 with
  | some (c :: cs) =>
    modifySession fun s => { (s.setTrap 0 none) with builtin := none }
    let ended (stop : Stop) : Step Bool := do
      settle stop
      return stop = .finished || stop = .failed
    let isLeft ← tryCatch (do run p {} (c :: cs); return false) ended
    if !isLeft then setStatus s.status
  | _ => return

/-- Run a step as the whole of a subshell, which keeps only what is ignored of what is done on signals. -/
def asSubshell (step : Step Unit) : Step Unit := do
  modifySession fun s => { s with traps := s.traps.filter fun t => t.2.isEmpty }
  asShell p step

end Lines

end Shell

end BuildPlan
