import BuildPlan.Process.Signal
import BuildPlan.Process.World
import BuildPlan.Shell.Arithmetic

/-!
# The session of a shell

A `Session` is all that a shell process knows by itself: its arguments and variables, its functions, the
options that are set, what it does on signals, and which descriptors lead to which channels.

* `Session.look?` looks a variable up; `Session.assign` gives it a value.
* `Session.value?` is the value of any parameter, the special ones included.
* `Session.environment` lists the variables that a program is given.
-/

namespace BuildPlan

namespace Shell

structure Variable where
  value : Option (List Char) := none
  isExported : Bool := false
  /-- Its value stays as it is. -/
  isConstant : Bool := false
deriving DecidableEq

inductive Ending where
  | status (n : Nat)
  | signal (n : Nat)
deriving DecidableEq

/-- The status that a shell sees. -/
def Ending.seen : Ending → Nat
  | .status n => n
  | .signal n => 128 + n

/-- A process that is not waited for. -/
structure Job where
  process : Nat
  ending : Ending
  time : Nat
  /-- The number that the shell gives it. -/
  number : Nat := 1
  isWaited : Bool := false
deriving DecidableEq

/-- All that a shell process knows by itself. -/
structure Session where
  /-- The name of the shell or the script. -/
  name : List Char
  /-- The builtin under way, which complaints name. -/
  builtin : Option (List Char) := none
  arguments : List (List Char) := []
  /-- The variables; the first entry for a name counts. -/
  bindings : List (List Char × Variable) := []
  functions : List (List Char × Script) := []
  /-- The words that stand for other text. -/
  aliases : List (List Char × List Char) := []
  /-- The letters of the options that are set. -/
  options : List Char := []
  /-- What is run on a signal; nothing is run if the text is empty. Zero stands for the end. -/
  traps : List (Nat × List Char) := []
  /-- The signals whose traps are still to be run. -/
  pending : List Nat := []
  /-- The status of the last command. -/
  status : Nat := 0
  /-- The status of the last script inside the words of this command. -/
  innerStatus : Nat := 0
  /-- The line of the command under way. -/
  line : Nat := 0
  /-- The number of the first shell process. -/
  root : Nat := 1000
  process : Nat := 1000
  /-- The numbers of the processes that wait for this one. -/
  ancestors : List Nat := []
  /-- The last process that is not waited for. -/
  lastJob : Option Nat := none
  /-- The processes that are not waited for. -/
  jobs : List Job := []
  /-- The channel of each open descriptor. -/
  descriptors : List (Nat × Nat) := []
  directory : Location := []
  /-- The permission bits that new files do not have. -/
  mask : Nat := 0o022
  /-- How many loops are under way. -/
  loops : Nat := 0
  /-- How many functions are under way. -/
  calls : Nat := 0
  /-- What variables were before functions made them their own, function by function. -/
  locals : List (List (List Char × Option Variable)) := []
  /-- How far the option parser has come inside a word. -/
  optionOffset : Option Nat := none
  /-- The here-documents read so far. -/
  documents : Array (List Piece) := #[]

namespace Session

def look? (s : Session) (name : List Char) : Option Variable := s.bindings.lookup name

/-- The value of a variable, if it has one. -/
def boundValue? (s : Session) (name : List Char) : Option (List Char) := (s.look? name).bind Variable.value

/-- Bindings with a variable in place of the one of that name, or at the end. -/
def boundTo (name : List Char) (v : Variable) :
    List (List Char × Variable) → List (List Char × Variable)
  | [] => [(name, v)]
  | b :: rest => if b.1 = name then (name, v) :: rest else b :: boundTo name v rest

/-- Put a variable in place of the one of that name. -/
def bind (s : Session) (name : List Char) (v : Variable) : Session :=
  { s with bindings := boundTo name v s.bindings }

def unbind (s : Session) (name : List Char) : Session :=
  { s with bindings := s.bindings.filter fun b => b.1 ≠ name }

def has (s : Session) (option : Char) : Bool := s.options.contains option

/-- Give a variable a value. -/
def assign (s : Session) (name value : List Char) : Session :=
  let v := (s.look? name).getD {}
  let s := s.bind name { v with value := some value, isExported := v.isExported || s.has 'a' }
  if name = "OPTIND".toList then { s with optionOffset := none } else s

/-- The letters of all options, in the order in which they are listed. -/
def optionLetters : List Char :=
  ['p', 'u', 'b', 'a', 'C', 'E', 'V', 'v', 'x', 's', 'n', 'm', 'i', 'I', 'f', 'e']

def optionNames : List (String × Char) :=
  [("errexit", 'e'), ("noglob", 'f'), ("ignoreeof", 'I'), ("interactive", 'i'), ("monitor", 'm'),
    ("noexec", 'n'), ("stdin", 's'), ("xtrace", 'x'), ("verbose", 'v'), ("vi", 'V'), ("emacs", 'E'),
    ("noclobber", 'C'), ("allexport", 'a'), ("notify", 'b'), ("nounset", 'u'), ("privileged", 'p'),
    ("nolog", 'L'),
    ("debug", 'D')]

/-- Set an option or take it back. -/
def setOption (s : Session) (option : Char) (on : Bool) : Session :=
  let others := s.options.filter (· ≠ option)
  { s with options := if on then option :: others else others }

/-- The characters that separate fields. -/
def separators (s : Session) : List Char := (s.boundValue? "IFS".toList).getD [' ', '\t', '\n']

/-- What stands between fields that are put together: the first separator. -/
def between (s : Session) : List Char :=
  match s.boundValue? "IFS".toList with
  | none => [' ']
  | some cs => cs.take 1

def joined (s : Session) : List Char := s.between.intercalate s.arguments

/-- The value of a parameter. The arguments as a whole have one even if there are none. -/
def value? (s : Session) (name : List Char) : Option (List Char) :=
  match name with
  | ['#'] => some (Letters.ofNat s.arguments.length)
  | ['?'] => some (Letters.ofNat s.status)
  | ['$'] => some (Letters.ofNat s.root)
  | ['-'] => some (optionLetters.filter s.has)
  | ['!'] => s.lastJob.map Letters.ofNat
  | ['@'] => some (Letters.spaced s.arguments)
  | ['*'] => some s.joined
  | name =>
    if name.all Char.isDigit then
      match Decimal.natural name with
      | 0 => some s.name
      | n + 1 => s.arguments[n]?
    else s.boundValue? name

/-- The variables that a program is given, in order. -/
def environment (s : Session) : List (List Char × List Char) :=
  s.bindings.filterMap fun (name, v) =>
    if v.isExported then v.value.map fun value => (name, value) else none

/-- The number of groups that a shell keeps its variables in. -/
def groupCount : Nat := 39

def groupOf (name : List Char) : Nat :=
  (name.foldl (fun n c => n + c.toNat) ((name.headD '\x00').toNat * 16)) % groupCount

/-- The session with its variables in the order in which a shell hands them on: group by group. -/
def inGroups (s : Session) : Session :=
  { s with bindings := s.bindings.mergeSort fun a b => decide (groupOf a.1 ≤ groupOf b.1) }

/-- The directories that programs are looked for in, without a slash at their ends. -/
def searchPath (s : Session) : List (List Char) :=
  match s.boundValue? "PATH".toList with
  | none => []
  | some cs => cs.splitOn ':'

def channel? (s : Session) (descriptor : Nat) : Option Nat := s.descriptors.lookup descriptor

/-- Let a descriptor lead to a channel, or close it. -/
def lead (s : Session) (descriptor : Nat) (channel : Option Nat) : Session :=
  let others := s.descriptors.filter fun d => d.1 ≠ descriptor
  { s with
    descriptors := match channel with
      | some c => (descriptor, c) :: others
      | none => others }

/-- Remember a process that is not waited for, under the first number that is free. The number of one
that has been waited for is free again. -/
def addJob (s : Session) (process : Nat) (ending : Ending) (time : Nat) : Session :=
  let isTaken (n : Nat) : Bool := s.jobs.any fun j => j.number == n && !j.isWaited
  let number := ((List.range (s.jobs.length + 1)).map (· + 1)).find? (!isTaken ·) |>.getD 1
  { s with
    jobs := { process := process, ending := ending, time := time, number := number } ::
      s.jobs.filter fun j => j.number ≠ number }

/-- The process that text after a percent sign names: by its number, or as the last one or the one
before. -/
def job? (s : Session) (text : List Char) : Option Job :=
  match text with
  | [] => s.jobs.head?
  | ['%'] => s.jobs.head?
  | ['+'] => s.jobs.head?
  | ['-'] => s.jobs[1]?
  | digits => (Decimal.count? digits).bind fun n => s.jobs.find? fun j => j.number == n

/-- What a signal does: nothing if it is ignored, otherwise what is to be run for it, if anything. -/
def trap? (s : Session) (signal : Nat) : Option (List Char) := s.traps.lookup signal

def setTrap (s : Session) (signal : Nat) (action : Option (List Char)) : Session :=
  let others := s.traps.filter fun t => t.1 ≠ signal
  { s with
    traps := match action with
      | some text => (signal, text) :: others
      | none => others }

example : ({ name := [], options := ['x', 'e'] } : Session).value? ['-'] = some ['x', 'e'] := by decide

end Session

end Shell

end BuildPlan
