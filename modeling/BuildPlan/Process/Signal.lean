import BuildPlan.Shell.Decimal

/-!
# Signals

* `Signal.names` lists the signals that have names, by number.
* `Signal.ofText?` reads a signal, by number or by name.
* `Signal.ends` says whether a signal ends a process that has no plans for it.
* `Signal.description` is how a shell reports a process that a signal has ended.
-/

namespace BuildPlan

namespace Signal

/-- The names of signals, with their numbers. -/
def names : List (String × Nat) :=
  [("HUP", 1), ("INT", 2), ("QUIT", 3), ("ILL", 4), ("TRAP", 5), ("ABRT", 6), ("BUS", 7), ("FPE", 8),
    ("KILL", 9), ("USR1", 10), ("SEGV", 11), ("USR2", 12), ("PIPE", 13), ("ALRM", 14), ("TERM", 15),
    ("STKFLT", 16), ("CHLD", 17), ("CONT", 18), ("STOP", 19), ("TSTP", 20), ("TTIN", 21),
    ("TTOU", 22), ("URG", 23), ("XCPU", 24), ("XFSZ", 25), ("VTALRM", 26), ("PROF", 27),
    ("WINCH", 28), ("IO", 29), ("PWR", 30), ("SYS", 31)]

/-- The number of the signal that kills. -/
def kill : Nat := 9

/-- The number of the signal of a process that reaches for memory it does not have. -/
def violation : Nat := 11

/-- The number of the signal of a pipe that nobody reads. -/
def pipe : Nat := 13

/-- The number of the signal that asks a process to end. -/
def terminate : Nat := 15

/-- A bound on the numbers of signals. -/
def limit : Nat := 65

def name? (n : Nat) : Option String := (names.find? fun s => s.2 == n).map Prod.fst

/-- The signal that a text names, by its number, or by its name in letters of any case. Zero is the end
of the shell itself. -/
def ofText? (cs : List Char) : Option Nat :=
  match Shell.Decimal.digits? cs with
  | some n => if n < limit then some n else none
  | none =>
    let upper := String.ofList (cs.map Char.toUpper)
    if upper = "EXIT" then some 0 else names.lookup upper

/-- The signals that a process does not notice unless it has plans for them. -/
def unnoticed : List Nat := [0, 17, 18, 19, 20, 21, 22, 23, 28]

/-- The signal ends a process that has no plans for it. -/
def ends (n : Nat) : Bool := !unnoticed.contains n

/-- How a shell reports a process that a signal has ended. Two signals are not reported. -/
def description (n : Nat) : Option String :=
  match n with
  | 1 => some "Hangup"
  | 3 => some "Quit"
  | 4 => some "Illegal instruction"
  | 5 => some "Trace/breakpoint trap"
  | 6 => some "Aborted"
  | 7 => some "Bus error"
  | 8 => some "Floating point exception"
  | 9 => some "Killed"
  | 10 => some "User defined signal 1"
  | 11 => some "Segmentation fault"
  | 12 => some "User defined signal 2"
  | 14 => some "Alarm clock"
  | 15 => some "Terminated"
  | 16 => some "Stack fault"
  | 24 => some "CPU time limit exceeded"
  | 25 => some "File size limit exceeded"
  | 26 => some "Virtual timer expired"
  | 27 => some "Profiling timer expired"
  | 29 => some "I/O possible"
  | 30 => some "Power failure"
  | 31 => some "Bad system call"
  | 2 => none
  | 13 => none
  | n => some ("Real-time signal " ++ toString (n - 34))

example : ofText? "term".toList = some 15 ∧ ofText? "9".toList = some 9 ∧ ofText? "x".toList = none := by
  decide

end Signal

end BuildPlan
