import BuildPlan.Shell.Machine

/-!
# Standard tools

A `Tool` is a program that every system has. It is run with the name it was called by and its arguments,
in the process under way, and leaves its status in the session.

* `Tool.say` prints, `Tool.warn` complains, and `Tool.refuse` complains and ends the tool.
* `Tool.options` takes options, which may stand among the other arguments.
* `Tool.input` reads a file, or standard input for a hyphen.
-/

namespace BuildPlan

open Shell (Step)

/-- A program that every system has: it is given the name it was called by and its arguments. -/
abbrev Tool := List Char → List (List Char) → Step Unit

namespace Tool

/-! ### Ending -/

def setStatus (n : Nat) : Step Unit := Step.setStatus n

/-- End the tool with a status. -/
def finish {α : Type} (n : Nat) : Step α := do
  setStatus n
  throw .finished

/-! ### Printing -/

def warn (name text : List Char) : Step Unit :=
  Step.putError (name ++ ": ".toList ++ text ++ ['\n'])

/-- Complain and end the tool. -/
def refuse {α : Type} (name text : List Char) (status : Nat := 1) : Step α := do
  warn name text
  finish status

/-- Point to the help of a tool. -/
def hint (name : List Char) : Step Unit :=
  Step.putError ("Try '".toList ++ name ++ " --help' for more information.\n".toList)

/-- Complain about how the tool was called and end it. -/
def misused {α : Type} (name text : List Char) (status : Nat := 1) : Step α := do
  warn name text
  hint name
  finish status

/-- Print. A failure to print ends the tool. -/
def say (name text : List Char) : Step Unit := do
  if text.isEmpty then return
  match ← Step.put 1 text with
  | none => return
  | some fault => refuse name ("write error: ".toList ++ fault.wording.toList)

def sayLines (name : List Char) (ls : List (List Char)) : Step Unit := say name (Letters.unlines ls)

/-- The characters that need no quotes. -/
def isPlain (c : Char) : Bool :=
  c.isAlphanum || ['%', '+', ',', '-', '.', '/', ':', '@', '_', ']', '^', '#', '~', '\x7b', '\x7d'].contains c

def inQuotes (text : List Char) : List Char :=
  if text.contains '\'' && !(text.any fun c => ['"', '$', '\x60', '\\'].contains c) then
    '"' :: text ++ ['"']
  else '\'' :: (text.flatMap fun c => if c = '\'' then "'\\''".toList else [c]) ++ ['\'']

/-- Text in quotes if it needs them. -/
def quoted (text : List Char) : List Char :=
  if text.isEmpty || !text.all isPlain || text.head? = some '#' || text.head? = some '~' then
    inQuotes text
  else text

/-! ### Options -/

/-- An option: its letter, its long name, and whether it takes a value. -/
structure Opt where
  letter : Char
  long : String := ""
  takesValue : Bool := false

/-- What options take from the arguments. -/
structure Arguments where
  options : List (Char × List Char) := []
  operands : List (List Char) := []

namespace Arguments

def has (a : Arguments) (c : Char) : Bool := a.options.any fun o => o.1 == c

def value? (a : Arguments) (c : Char) : Option (List Char) :=
  ((a.options.filter fun o => o.1 == c).getLast?).map Prod.snd

def values (a : Arguments) (c : Char) : List (List Char) :=
  (a.options.filter fun o => o.1 == c).map Prod.snd

/-- Put an option before the others. -/
def withOption (a : Arguments) (c : Char) (value : List Char) : Arguments :=
  { a with options := (c, value) :: a.options }

end Arguments

/-- The options that a long name stands for: the one it names, or all that it is the start of. -/
def named (opts : List Opt) (name : List Char) : List Opt :=
  let exact := opts.filter fun o => o.long.toList = name
  if exact.isEmpty then opts.filter fun o => o.long ≠ "" && name.isPrefixOf o.long.toList else exact

/-- Take options from arguments. The flag says that the first other argument ends them. The numbers are
a bound on how many words there are, and the status of a tool that is misused. -/
def optionsWithin (name : List Char) (opts : List Opt) (inOrder : Bool) (status : Nat) :
    Nat → List (List Char) → Step Arguments
  | 0, rest => return { operands := rest }
  | _ + 1, [] => return {}
  | bound + 1, w :: rest =>
    match w with
    | ['-', '-'] => return { operands := rest }
    | '-' :: '-' :: long => do
      let key := long.takeWhile (· ≠ '=')
      match named opts key with
      | [] => misused name ("unrecognized option '".toList ++ w.takeWhile (· ≠ '=') ++ ['\'']) status
      | o :: _ =>
        if long.contains '=' then
          if o.takesValue then
            return (← optionsWithin name opts inOrder status bound rest).withOption o.letter
              (long.drop (key.length + 1))
          else
            misused name ("option '--".toList ++ o.long.toList ++ "' doesn't allow an argument".toList)
              status
        else if o.takesValue then
          match rest with
          | value :: rest =>
            return (← optionsWithin name opts inOrder status bound rest).withOption o.letter value
          | [] =>
            misused name ("option '--".toList ++ o.long.toList ++ "' requires an argument".toList) status
        else return (← optionsWithin name opts inOrder status bound rest).withOption o.letter []
    | '-' :: c :: cs => do
      match opts.find? fun o => o.letter == c with
      | none => misused name ("invalid option -- '".toList ++ [c] ++ ['\'']) status
      | some o =>
        if o.takesValue then
          match cs, rest with
          | [], [] =>
            misused name ("option requires an argument -- '".toList ++ [c] ++ ['\'']) status
          | [], value :: rest =>
            return (← optionsWithin name opts inOrder status bound rest).withOption c value
          | cs, rest =>
            return (← optionsWithin name opts inOrder status bound rest).withOption c cs
        else
          let rest := if cs.isEmpty then rest else ('-' :: cs) :: rest
          return (← optionsWithin name opts inOrder status bound rest).withOption c []
    | w => do
      if inOrder then return { operands := w :: rest }
      else
        let a ← optionsWithin name opts inOrder status bound rest
        return { a with operands := w :: a.operands }

def options (name : List Char) (opts : List Opt) (arguments : List (List Char))
    (inOrder : Bool := false) (status : Nat := 1) : Step Arguments :=
  optionsWithin name opts inOrder status (arguments.flatten.length + arguments.length + 1) arguments

/-- Options without values and long names. -/
def letters (cs : String) : List Opt := cs.toList.map fun c => { letter := c }

/-- Options with values and without long names. -/
def valued (cs : String) : List Opt := cs.toList.map fun c => { letter := c, takesValue := true }

/-! ### Reading -/

/-- What can be read from a descriptor, or why it cannot be read. -/
def fromDescriptor (descriptor : Nat) : Step (Except Obstacle (List Char)) := do
  let s ← Step.session
  match s.channel? descriptor with
  | none => return .error (if descriptor = 0 then .closed else .missing)
  | some channel =>
    match ((← Step.world).channels[channel]?).map Channel.target with
    | some (.directory _) => return .error .isDirectory
    | _ => return .ok ((← Step.takeAll descriptor).getD [])

/-- What a file holds, or why it cannot be read. -/
def contentOf (path : List Char) : Step (Except Obstacle (List Char)) := do
  match World.descriptor? path with
  | some d => fromDescriptor d
  | none =>
    let s ← Step.session
    match (← Step.world).open? s.directory s.mask path { reads := true } with
    | .error o => return .error o
    | .ok (w, channel) =>
      match (w.channels[channel]?).map Channel.target with
      | some (.directory _) => return .error .isDirectory
      | _ => return .ok (w.available channel)

/-- The standard input, or why it cannot be read. -/
def standardInput : Step (Except Obstacle (List Char)) := fromDescriptor 0

/-- What a file holds, or standard input for a hyphen. -/
def input (path : List Char) : Step (Except Obstacle (List Char)) :=
  if path = ['-'] then standardInput else contentOf path

/-- What files hold, or standard input if there are none. A file that cannot be read is complained
about and left out. -/
def inputs (name : List Char) (files : List (List Char)) (status : Nat := 1) :
    Step (List (List Char × List Char)) :=
  (if files.isEmpty then [['-']] else files).filterMapM fun file => do
    match ← input file with
    | .ok text => return some (file, text)
    | .error o =>
      warn name (quoted file ++ ": ".toList ++ o.wording.toList)
      setStatus status
      return none

/-- Use what files hold, or standard input if there are none, one after the other. A file that cannot be
read is complained about, as it is described, and left out. -/
def eachInput (name : List Char) (files : List (List Char))
    (use : List Char → List Char → Step Unit) (describe : List Char → List Char := quoted) : Step Unit :=
  (if files.isEmpty then [['-']] else files).forM fun file => do
    match ← input file with
    | .ok text => use file text
    | .error o =>
      warn name (describe file ++ ": ".toList ++ o.wording.toList)
      setStatus 1

/-- Write a text to a file in place of what it holds. -/
def overwrite (path text : List Char) (appends : Bool := false) : Step (Option Obstacle) := do
  match World.descriptor? path with
  | some d =>
    let _ ← Step.put d text
    return none
  | none =>
    let s ← Step.session
    match (← Step.world).open? s.directory s.mask path
        { writes := true, creates := true, empties := !appends, appends := appends } with
    | .error o => return some o
    | .ok (w, channel) =>
      let (w, _) := w.write channel text
      Step.modifyWorld fun _ => w
      return none

example : String.ofList (quoted "a b".toList) = "'a b'" ∧ quoted "a/b.c".toList = "a/b.c".toList := by
  decide

end Tool

end BuildPlan
