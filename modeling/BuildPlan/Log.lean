/-!
# Log events

What a run tells about itself besides its result is a list of events in order. An event has a level;
`Log.visible` keeps the events that are shown, depending on whether the run is verbose.

An event may quote text from outside, which may hold what a terminal takes for commands. `Log.tame` is
the event as it is printed: the controls that start such commands are shown by number, and line breaks,
tabs and all else are left alone.
-/

namespace BuildPlan

/-- How weighty an event is. -/
inductive Level where
  | error
  /-- A step of the work. -/
  | info
  | debug
deriving DecidableEq

def Level.name : Level → String
  | .error => "ERROR"
  | .info => "INFO"
  | .debug => "DEBUG"

structure Event where
  level : Level
  message : String
deriving DecidableEq

namespace Log

/-- The events that are shown: all of them in a verbose run, otherwise failures only. -/
def visible (verbose : Bool) (events : List Event) : List Event :=
  if verbose then events else events.filter fun e => e.level = .error

/-- One character of a printed message. -/
def tameCharacter (c : Char) : List Char :=
  match c with
  | '\x07' => "\\x07".toList
  | '\x08' => "\\x08".toList
  | '\x0c' => "\\x0c".toList
  | '\x1b' => "\\x1b".toList
  | '\x7f' => "\\x7f".toList
  | c =>
    if 0x80 ≤ c.toNat ∧ c.toNat ≤ 0x9F then
      "\\u\x7b".toList ++ Nat.toDigits 16 c.toNat ++ ['\x7d']
    else [c]

def tame (e : Event) : Event :=
  { e with message := String.ofList (e.message.toList.flatMap tameCharacter) }

example : (tame ⟨.info, "a\x1b[\u009b\n"⟩).message = "a\\x1b[\\u\x7b9b\x7d\n" := by decide

end Log

end BuildPlan
