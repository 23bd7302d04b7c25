import BuildPlan.Tool.Plain

/-!
# Tools that run programs

`env`, `nice`, `nohup`, `setsid`, `timeout` and `xargs` run a program that is named among their
arguments. All but the last two do so in place of themselves.
-/

namespace BuildPlan

open Shell (Step Ending Powers)

namespace Tool

variable (p : Powers)

/-- The search path of a process without one. -/
def plainPath : List Char := "/bin:/usr/bin".toList

/-- Run a program in place of the process under way. What comes back is why it could not be run. -/
def become (words : List (List Char)) : Step Obstacle := do
  let name := words.headD []
  if name.contains '/' then Shell.Programs.launch p name words
  else
    let s ← Step.session
    let directories := if (s.boundValue? "PATH".toList).isSome then s.searchPath else plainPath.splitOn ':'
    match ← Shell.Programs.findIn name .missing directories with
    | .path path => Shell.Programs.launch p path words
    | .nowhere o => return o

/-- Run a program in place of a tool. If it cannot be run, the tool says so and ends. -/
def hand {α : Type} (name : List Char) (start : String) (words : List (List Char)) : Step α := do
  let o ← become p words
  warn name (start.toList ++ inQuotes (words.headD []) ++ ": ".toList ++ o.wording.toList)
  finish (if o = .missing || o = .notDirectory then 127 else 126)

/-- The word gives a variable a value: its name and its value. -/
def assignment? (w : List Char) : Option (List Char × List Char) :=
  if w.contains '=' then some (w.takeWhile (· ≠ '='), (w.dropWhile (· ≠ '=')).drop 1) else none

/-- Run a program with other variables, or print them. -/
def env : Tool := fun name arguments => do
  setStatus 0
  let a ← options name
    [⟨'i', "ignore-environment", false⟩, ⟨'0', "null", false⟩, ⟨'u', "unset", true⟩,
      ⟨'C', "chdir", true⟩] arguments true 125
  let (empties, words) := match a.operands with
    | ['-'] :: rest => (true, rest)
    | words => (false, words)
  let variables_ := (← Step.session).environment
  let kept := if empties || a.has 'i' then [] else variables_
  let kept := kept.filter fun v => !(a.values 'u').contains v.1
  let assignments := (words.takeWhile fun w => (assignment? w).isSome).filterMap assignment?
  let words := words.dropWhile fun w => (assignment? w).isSome
  Step.modifySession fun s =>
    let bare := { s with bindings := kept.map fun v => (v.1, { value := some v.2, isExported := true }) }
    assignments.foldl (fun s v => s.bind v.1 { value := some v.2, isExported := true }) bare
  if let some directory := a.value? 'C' then
    match ← Step.resolve directory with
    | .error o =>
      refuse name ("cannot change directory to ".toList ++ inQuotes directory ++ ": ".toList ++
        o.wording.toList) 125
    | .ok loc => Step.modifySession fun s => { s with directory := loc }
  if words.isEmpty then
    let ended (v : List Char × List Char) : List Char :=
      binding v ++ [if a.has '0' then '\x00' else '\n']
    say name ((← Step.session).environment.flatMap ended)
  else hand p name "" words

/-- Run a program with another priority, of which nothing shows. -/
def nice : Tool := fun name arguments => do
  let a ← options name [⟨'n', "adjustment", true⟩] arguments true 125
  if a.operands.isEmpty then
    setStatus 0
    sayLines name [['0']]
  else hand p name "" a.operands

/-- Run a program that is not told when its terminal goes. -/
def nohup : Tool := fun name arguments => do
  let a ← options name [] arguments true 125
  if a.operands.isEmpty then misused name "missing operand".toList 125
  else
    Step.modifySession fun s => s.setTrap 1 (some [])
    hand p name "failed to run command " a.operands

/-- Run a program in a session of its own, of which nothing shows. -/
def setsid : Tool := fun name arguments => do
  let a ← options name [] arguments true
  if a.operands.isEmpty then misused name "no command specified".toList
  else hand p name "failed to execute " a.operands

/-- Run a program for some time. -/
def timeout : Tool := fun name arguments => do
  let a ← options name
    [⟨'k', "kill-after", true⟩, ⟨'s', "signal", true⟩, ⟨'v', "verbose", false⟩,
      ⟨'f', "foreground", false⟩, ⟨'p', "preserve-status", false⟩] arguments true 125
  match a.operands with
  | limit :: w :: rest =>
    match secondsOf? limit with
    | none =>
      misused name ("invalid time interval ".toList ++ inQuotes limit) 125
    | some seconds =>
      let signal := ((a.value? 's').bind Signal.ofText?).getD Signal.terminate
      let before := (← Step.world).time
      let ending ← Step.fork (hand p name "failed to run command " (w :: rest))
      if seconds ≠ 0 && before + seconds < (← Step.world).time then
        Step.modifyWorld fun world => { world with time := before + seconds }
        if signal = Signal.kill then throw (.signalled signal)
        setStatus 124
      else
        match ending with
        | .status n => setStatus n
        | .signal n => throw (.signalled n)
  | _ =>
    hint name
    finish 125

/-! ### Words from standard input -/

/-- The words of a text in which quotes hold blanks together, at most so many, and the kind of a quote
that is not closed. -/
def quotedWords : Nat → List Char → Option (List Char) → List (List Char) × Option Char
  | 0, _, current => (current.toList.map List.reverse, none)
  | _ + 1, [], current => (current.toList.map List.reverse, none)
  | bound + 1, c :: rest, current =>
    if c = ' ' || c = '\t' || c = '\n' then
      let (more, open_) := quotedWords bound rest none
      (current.toList.map List.reverse ++ more, open_)
    else if c = '"' || c = '\'' then
      let body := rest.takeWhile fun d => d ≠ c && d ≠ '\n'
      if rest[body.length]? = some c then
        quotedWords bound (rest.drop (body.length + 1)) (some (body.reverse ++ current.getD []))
      else ([], some c)
    else if c = '\\' then
      match rest with
      | d :: rest => quotedWords bound rest (some (d :: current.getD []))
      | [] => quotedWords bound [] (some ('\\' :: current.getD []))
    else quotedWords bound rest (some (c :: current.getD []))

/-- Lists cut into pieces of a length, at most so many. -/
def chunks {α : Type} (n : Nat) : Nat → List α → List (List α)
  | 0, _ => []
  | bound + 1, xs => if xs.isEmpty then [] else xs.take n :: chunks n bound (xs.drop n)

/-- A text put in place of another wherever it stands. The number bounds the length. -/
def replaced (old new : List Char) : Nat → List Char → List Char
  | 0, text => text
  | _ + 1, [] => []
  | bound + 1, c :: rest =>
    if !old.isEmpty && old.isPrefixOf (c :: rest) then
      new ++ replaced old new bound ((c :: rest).drop old.length)
    else c :: replaced old new bound rest

/-- Run programs one after the other, until one fails badly. -/
def runEach (name : List Char) (tells : Bool) : List (List (List Char)) → Step Unit
  | [] => return
  | words :: rest => do
    if tells then Step.putError (Letters.spaced words ++ ['\n'])
    let start : Step Unit := do
      let o ← become p words
      warn name (words.headD [] ++ ": ".toList ++ o.wording.toList)
      finish (if o = .missing || o = .notDirectory then 127 else 126)
    let stop (why : String) (status : Nat) : Step Unit := do
      warn name (words.headD [] ++ ": ".toList ++ why.toList)
      finish status
    match ← Step.fork start with
    | .status 0 => runEach name tells rest
    | .status 127 => finish 127
    | .status 126 => finish 126
    | .status 255 => stop "exited with status 255; aborting" 124
    | .status _ =>
      setStatus 123
      runEach name tells rest
    | .signal n => stop ("terminated by signal " ++ toString n) 125

/-- The words that `xargs` finds in a text, and the kind of a quote that is not closed. -/
def wordsFor (a : Arguments) (text : List Char) : List (List Char) × Option Char :=
  let delimiter := if a.has '0' then some '\x00' else (a.value? 'd').bind fun d =>
    (Shell.Printing.unescape d).1.head?
  match delimiter with
  | some d =>
    let pieces := text.splitOn d
    (if pieces.getLast? = some [] then pieces.dropLast else pieces, none)
  | none =>
    if a.has 'I' then
      let indented (l : List Char) : List Char := l.dropWhile fun c => c == ' ' || c == '\t'
      (((Letters.lines text).map indented).filter fun l => !l.isEmpty, none)
    else quotedWords (text.length + 1) text none

/-- The words that each run of a command is given. -/
def runsFor (a : Arguments) (text : List Char) (words command : List (List Char)) :
    List (List (List Char)) :=
  let count (letter : Char) : Option Nat := (a.value? letter).bind Shell.Decimal.digits?
  match a.value? 'I' with
  | some mark =>
    words.map fun w => command.map fun c : List Char => replaced mark w (c.length + 1) c
  | none =>
    let groups : List (List (List Char)) :=
      match count 'n', count 'L' with
      | some n, _ => chunks (max n 1) (words.length + 1) words
      | none, some n =>
        let ls := (Letters.lines text).filter fun l => !l.isEmpty
        (chunks (max n 1) (text.length + 1) ls).map fun ls =>
          (quotedWords (text.length + 1) (Letters.unlines ls) none).1
      | none, none => if words.isEmpty then [] else [words]
    if groups.isEmpty && !a.has 'r' && !a.has 'I' then [command] else groups.map fun g => command ++ g

/-- An option wants a number that is large enough. -/
def checkCount (name : List Char) (letter : Char) (least : Nat) (w : List Char) : Step Unit := do
  match Shell.Decimal.digits? w with
  | none => misused name ("invalid number \"".toList ++ w ++ "\" for -".toList ++ [letter] ++ " option".toList)
  | some n =>
    if n < least then
      misused name ("value ".toList ++ w ++ " for -".toList ++ [letter] ++ " option should be >= ".toList ++
        Letters.ofNat least)

/-- Run a program with words from standard input. -/
def xargs : Tool := fun name arguments => do
  setStatus 0
  let a ← options name
    [⟨'0', "null", false⟩, ⟨'d', "delimiter", true⟩, ⟨'I', "replace", true⟩, ⟨'n', "max-args", true⟩,
      ⟨'L', "max-lines", true⟩, ⟨'r', "no-run-if-empty", false⟩, ⟨'t', "verbose", false⟩,
      ⟨'P', "max-procs", true⟩, ⟨'s', "max-chars", true⟩, ⟨'x', "exit", false⟩] arguments true
  let text ← match ← standardInput with
    | .ok text => pure text
    | .error _ => pure []
  let command := if a.operands.isEmpty then ["echo".toList] else a.operands
  let (words, quote?) := wordsFor a text
  for (letter, least) in [('L', 1), ('P', 0), ('n', 1), ('s', 1)] do
    if let some w := a.value? letter then checkCount name letter least w
  if let some c := quote? then
    if !words.isEmpty then runEach p name (a.has 't') (runsFor a text words command)
    let kind := if c = '"' then "double" else "single"
    refuse name ("unmatched ".toList ++ kind.toList ++
      " quote; by default quotes are special to xargs unless you use the -0 option".toList)
  runEach p name (a.has 't') (runsFor a text words command)

example : (quotedWords 20 "a \"b c\" d\\ e".toList none).1 = ["a", "b c", "d e"].map String.toList := by
  decide

end Tool

end BuildPlan
