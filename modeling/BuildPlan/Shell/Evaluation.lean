import BuildPlan.Shell.Builtin.Around
import BuildPlan.Shell.Builtin.Flow
import BuildPlan.Shell.Builtin.Variables
import BuildPlan.Shell.Redirecting

/-!
# Running commands

* `Evaluation.simple` runs a simple command: its words are expanded, its redirections followed, its
  assignments made, and then it is a function, a builtin or a program.
* `Evaluation.run` runs any script.

A failure whose status nobody looks at ends the shell if the option says so. A script with nothing after
it runs its last program in place of the shell.
-/

namespace BuildPlan

namespace Shell

open Step (session modifySession setStatus)

namespace Evaluation

/-- A command that is about to be run: its words, and how it is looked up. -/
structure Prepared where
  words : List (List Char) := []
  /-- The builtin that the command starts with is special. -/
  isSpecial : Bool := false
  skipsFunctions : Bool := false
  /-- Programs are looked for on the standard search path. -/
  usesStandardPath : Bool := false

variable (p : Powers)

/-! ### Words -/

/-- The builtins whose arguments can be assignments. -/
def declaring : List String := ["export", "readonly", "local", "alias"]

/-- The command takes assignments as arguments. -/
def takesAssignments (s : Session) (name : List Char) : Bool :=
  declaring.contains (String.ofList name) &&
    (Builtin.isSpecial name || (s.functions.lookup name).isNone)

/-- The fields of the arguments of a command. -/
def argumentsOf (declares : Bool) (words : List (List Piece)) : Step (List (List Char)) :=
  words.flatMapM fun w => do
    match if declares then assignmentWord? w else none with
    | some (name, value) =>
      return [name ++ ['='] ++ (← Expansion.assigned p value)]
    | none => Expansion.fieldsOf p w

/-- The fields of the words of a command. What comes first says how the others are taken. -/
def commandWords : List (List Piece) → Step (List (List Char))
  | [] => return []
  | w :: rest => do
    match ← Expansion.fieldsOf p w with
    | [] => commandWords rest
    | name :: more =>
      let s ← session
      if name = "command".toList && more.isEmpty then return name :: (← commandWords rest)
      else return name :: more ++ (← argumentsOf p (takesAssignments s name) rest)

/-! ### Functions, builtins, programs -/

/-- Give variables back what they were, and the options, which stand under a hyphen. -/
def restoreVariables (before : List (List Char × Option Variable)) : Step Unit :=
  before.forM fun (name, v) =>
    modifySession fun s =>
      if name = ['-'] then { s with options := (v.bind Variable.value).getD s.options }
      else match v with
      | some v => s.bind name v
      | none => s.unbind name

/-- How many functions can be under way at once. -/
def callLimit : Nat := 1000

def callFunction (m : Manner) (body : Script) (arguments : List (List Char)) : Step Unit := do
  let before ← session
  if callLimit ≤ before.calls then
    Step.fail ("Maximum function recursion depth (".toList ++ Letters.ofNat callLimit ++
      ") reached".toList)
  modifySession fun s =>
    { s with
      arguments := arguments
      optionOffset := none
      loops := 0
      calls := s.calls + 1
      locals := [] :: s.locals }
  let restore : Step Unit := do
    restoreVariables ((← session).locals.headD [])
    modifySession fun s =>
      { s with
        arguments := before.arguments
        optionOffset := before.optionOffset
        loops := before.loops
        calls := before.calls
        locals := before.locals }
  Step.afterwards
    (tryCatch (p.run { isTested := m.isTested } body) fun
      | .returned => return
      | stop => throw stop)
    restore

/-- Run a program in a process of its own, or in place of the shell if it has nothing to do afterwards. -/
def callProgram (m : Manner) (words : List (List Char)) : Step Unit := do
  let s ← session
  if m.isLast && s.traps.isEmpty then Programs.execute p words
  else setStatus (← Step.await (← Step.fork (Programs.execute p words)))

/-- Run a program that has been looked for by name. -/
def findAndCall (m : Manner) (words : List (List Char)) : Step Unit := do
  let name := words.headD []
  if name.contains '/' then callProgram p m words
  else
    match ← Programs.find name with
    | .path _ => callProgram p m words
    | .nowhere why =>
      Step.complain (name ++ ": ".toList ++ (Programs.why why).toList)
      setStatus 127

/-- Run a program in place of the shell, or only let descriptors lead elsewhere. -/
def exec (arguments : List (List Char)) : Step Unit := do
  let (_, words) ← Builtin.optionsOf "" arguments
  setStatus 0
  if !words.isEmpty then Programs.execute p words

def builtin (m : Manner) (name : List Char) (arguments : List (List Char)) : Step Unit :=
  match String.ofList name with
  | ":" => setStatus 0
  | "true" => setStatus 0
  | "false" => setStatus 1
  | "." => Builtin.runFile p arguments
  | "break" => Builtin.leaveLoops .broken arguments
  | "continue" => Builtin.leaveLoops .continued arguments
  | "return" => Builtin.leaveFunction arguments
  | "exit" => Builtin.exit arguments
  | "eval" => Builtin.eval p m arguments
  | "exec" => exec p arguments
  | "export" => Builtin.exportVariables arguments
  | "readonly" => Builtin.fixVariables arguments
  | "local" => Builtin.localVariables arguments
  | "unset" => Builtin.unset arguments
  | "set" => Builtin.set arguments
  | "shift" => Builtin.shift arguments
  | "times" => Builtin.times
  | "trap" => Builtin.trap arguments
  | "alias" => Builtin.aliases arguments
  | "unalias" => Builtin.unalias arguments
  | "cd" => Builtin.cd arguments
  | "chdir" => Builtin.cd arguments
  | "pwd" => Builtin.pwd arguments
  | "umask" => Builtin.umask arguments
  | "ulimit" => Builtin.ulimit arguments
  | "getopts" => Builtin.getopts arguments
  | "read" => Builtin.read arguments
  | "kill" => Builtin.kill arguments
  | "wait" => Builtin.wait arguments
  | "hash" => Builtin.hash arguments
  | "type" => Builtin.type arguments
  | "echo" => Builtin.echo arguments
  | "printf" => Builtin.printf arguments
  | "test" => Builtin.test arguments
  | "[" => Builtin.bracket arguments
  | "jobs" => Builtin.jobs
  | "command" => do
    let _ ← Builtin.optionsOf "pvV" arguments
    setStatus 0
  | "fg" => Step.fail "No current job".toList
  | "bg" => Step.fail "No current job".toList
  | _ => setStatus 0

/-- Run a builtin under its name. An error in an ordinary one is only its failure. -/
def callBuiltin (m : Manner) (isSpecial : Bool) (name : List Char) (arguments : List (List Char)) :
    Step Unit := do
  let before := (← session).builtin
  modifySession fun s => { s with builtin := some name }
  let restore := modifySession fun s => { s with builtin := before }
  let step := Step.afterwards (builtin p m name arguments) restore
  if isSpecial then step
  else
    tryCatch step fun
      | .failed => return
      | stop => throw stop

inductive Asked where
  | run (c : Prepared)
  /-- To print what names stand for. -/
  | look (names : List (List Char))
  /-- To say what names stand for. -/
  | describe (names : List (List Char))

/-- Take `command` and its options from the start of words. The number bounds how many words there
are. -/
def asked : Nat → Prepared → Step Asked
  | 0, c => return .run c
  | bound + 1, c => do
    let s ← session
    match c.words with
    | name :: arguments =>
      if name = "command".toList && (c.skipsFunctions || (s.functions.lookup name).isNone) then
        if areMisused arguments then return .run { c with skipsFunctions := true }
        let (options, words) ← Builtin.optionsOf "pvV" arguments
        if options.any fun o => o.1 == 'V' then return .describe words
        else if options.any fun o => o.1 == 'v' then return .look (words.take 1)
        else
          asked bound
            { c with
              words := words
              skipsFunctions := true
              usesStandardPath := c.usesStandardPath || !options.isEmpty }
      else return .run c
    | [] => return .run c
where
  /-- There is an unknown option among those at the start of the words. -/
  areMisused : List (List Char) → Bool
    | ('-' :: c :: cs) :: rest =>
      if c = '-' ∧ cs.isEmpty then false
      else (c :: cs).any (fun c => not (['p', 'v', 'V'].contains c)) || areMisused rest
    | _ => false

/-- Run a command whose words have been expanded. -/
def callPrepared (m : Manner) (c : Prepared) : Step Unit := do
  let s ← session
  match c.words with
  | [] => setStatus s.innerStatus
  | name :: arguments =>
    let function? := if c.skipsFunctions || Builtin.isSpecial name then none else s.functions.lookup name
    match function? with
    | some (.definition _ _ body) => callFunction p m body arguments
    | some body => callFunction p m body arguments
    | none =>
      if Builtin.isBuiltin name then callBuiltin p m c.isSpecial name arguments
      else if c.usesStandardPath then
        let path := s.look? "PATH".toList
        modifySession fun s => s.assign "PATH".toList "/usr/bin:/bin".toList
        Step.afterwards (findAndCall p m c.words) (restoreVariables [("PATH".toList, path)])
      else findAndCall p m c.words

/-! ### Simple commands -/

/-- What stands before a command that is shown: the text that is set for it, with what is to be replaced
in it replaced. -/
def startOfTrace (text : List Char) : Step (List Char) := do
  match Grammar.documentOf? text with
  | none => return text
  | some pieces =>
    modifySession fun s => s.setOption 'x' false
    let shown ← tryCatch (Expansion.single p .none pieces) fun
      | .failed => return text
      | stop => throw stop
    modifySession fun s => s.setOption 'x' true
    return shown

/-- Show a command before it is run. -/
def trace (errors : Option Nat) (assigned : List (List Char × List Char)) (words : List (List Char)) :
    Step Unit := do
  let s ← session
  if s.has 'x' then
    let start ← startOfTrace p ((s.boundValue? "PS4".toList).getD "+ ".toList)
    let shown := assigned.map (fun (name, value) => name ++ ['='] ++ value) ++ words
    let text := start ++ Letters.spaced shown ++ ['\n']
    match errors with
    | some channel =>
      Step.modifyWorld fun w => (w.write channel text).1
    | none => return

/-- Make the assignments before a command. -/
def assignAll (assignments : List (List Piece)) (each : List Char → List Char → Step Unit) :
    Step (List (List Char × List Char)) :=
  assignments.filterMapM fun w => do
    match assignmentWord? w with
    | none => return none
    | some (name, word) =>
      let value ← Expansion.assigned p word
      each name value
      return some (name, value)

def perform (m : Manner) (request : Asked) : Step Unit := do
  match request with
  | .run c => callPrepared p m c
  | .look names =>
    setStatus 0
    names.forM Builtin.look
  | .describe names =>
    setStatus 0
    names.forM Builtin.describe

/-- The command is to lead descriptors elsewhere for good. -/
def Asked.isExec : Asked → Bool
  | .run c => c.words.head? = some "exec".toList
  | _ => false

def simple (m : Manner) (line : Nat) (assignments words : List (List Piece))
    (redirections : List (Redirection (List Piece))) : Step Unit := do
  modifySession fun s => { s with line := line, innerStatus := 0 }
  let fields ← commandWords p words
  let isSpecial := fields.head?.any Builtin.isSpecial
  let keeps := fields.isEmpty || isSpecial
  let request ← asked (fields.length + 1) { words := fields, isSpecial := isSpecial }
  let rs ← Redirecting.resolve p redirections
  let before ← session
  let old := (assignments.filterMap assignmentWord?).map fun (name, _) => (name, before.look? name)
  let assignOne (name value : List Char) : Step Unit := do
    Expansion.assign name value
    if !keeps || (request.isExec && fields.length > 1) then
      modifySession fun s => s.bind name { (s.look? name).getD {} with isExported := true }
  let step : Step Unit := do
    let assigned ← assignAll p assignments assignOne
    trace p (before.channel? 2) assigned fields
    perform p m request
  let step := if keeps then step else Step.afterwards step (restoreVariables old)
  if ← Redirecting.apply rs then
    if request.isExec then step else Step.afterwards step (Redirecting.restore before rs)
  else
    Redirecting.restore before rs
    setStatus 2
    if isSpecial then throw .failed

/-! ### Compound commands -/

/-- Run a script whose status is looked at, and see whether it succeeds. -/
def succeeds (script : Option Script) : Step Bool := do
  match script with
  | some c =>
    p.run { isTested := true } c
    return (← session).status = 0
  | none => return true

/-- Run a body. An empty one succeeds. -/
def body (m : Manner) (script : Option Script) : Step Unit :=
  match script with
  | some c => p.run m c
  | none => setStatus 0

/-- Run a round of a loop. What comes back says whether the loop goes on. -/
def round (step : Step Bool) : Step Bool :=
  tryCatch step fun
    | .broken n => if n > 1 then throw (.broken (n - 1)) else return false
    | .continued n => if n > 1 then throw (.continued (n - 1)) else return true
    | stop => throw stop

/-- A step inside one loop more. -/
def inLoop (step : Step Unit) : Step Unit := do
  let loops := (← session).loops
  modifySession fun s => { s with loops := loops + 1 }
  Step.afterwards step (modifySession fun s => { s with loops := loops })

/-- How often a loop goes round at most. -/
def rounds : Nat := 200000

/-- Run a loop as long as its condition holds. The status is that of the last body. -/
def loop (m : Manner) (inverted : Bool) (condition script : Option Script) : Nat → Nat → Step Unit
  | 0, _ => throw .exhausted
  | bound + 1, last => do
    let goesOn ← round do
      if (← succeeds p condition) != inverted then
        body p { isTested := m.isTested } script
        return true
      else
        setStatus last
        return false
    if goesOn then loop m inverted condition script bound (← session).status

/-- Run a body for each word. -/
def each (m : Manner) (name : List Char) (script : Option Script) : List (List Char) → Step Unit
  | [] => return
  | w :: rest => do
    let goesOn ← round do
      Expansion.assign name w
      body p { isTested := m.isTested } script
      return true
    if goesOn then each m name script rest

/-- Find the first arm with a pattern that fits. -/
def armFor (word : List Char) : List (List (List Piece) × Option Script) →
    Step (Option (Option Script))
  | [] => return none
  | (patterns, script) :: rest => do
    let fits ← patterns.anyM fun w => return (← Expansion.pattern p w).fits word
    if fits then return some script else armFor word rest

/-- Run stages, each of which reads what the one before it wrote. The endings come back in order. -/
def stages (m : Manner) (input : Option Nat) : List Script → Step (List Ending)
  | [] => return []
  | stage :: rest => do
    let ends ← if rest.isEmpty then pure none else do
      pure (some (← Step.addPipe (some World.pipeLimit)))
    let ending ← Step.fork do
      if input.isSome then modifySession fun s => s.lead 0 input
      if let some (_, back) := ends then modifySession fun s => s.lead 1 (some back)
      Lines.asSubshell p (p.run { isLast := true, isTested := m.isTested } stage)
    return ending :: (← stages m (ends.map Prod.fst) rest)

/-- Run a step in a process that is not waited for. It cannot read what the shell reads. -/
def unattended (step : Step Unit) : Step Unit := do
  let before := (← Step.world).time
  let nothing ← Step.addChannel { target := .nothing, writes := false }
  let ending ← Step.fork do
    modifySession fun s => s.lead 0 (some nothing)
    step
  let w ← Step.world
  Step.modifyWorld fun w => { w with time := before }
  modifySession fun s =>
    { (s.addJob w.lastProcess ending w.time) with
      lastJob := some w.lastProcess
      status := 0 }
  Step.receiveAll

/-- Run a script under redirections as a subshell does. -/
def redirectedBody (m : Manner) (rs : List Redirecting.Resolved) (script : Option Script) : Step Unit := do
  if ← Redirecting.apply rs then body p { isLast := true, isTested := m.isTested } script
  else
    setStatus 2
    throw .failed

/-- Leave the shell if the command has failed and nobody looks at its status. -/
def checkFailure (m : Manner) : Step Unit := do
  let s ← session
  if s.has 'e' && !m.isTested && s.status ≠ 0 then throw .finished

/-- Run a script, the signals that have come aside. -/
def perScript (m : Manner) : Script → Step Unit
  | .simple line assignments words redirections => do
    simple p m line assignments words redirections
    checkFailure m
  | .pipe parts background => do
    if background then
      unattended do
        let endings ← stages p { m with isTested := false } none parts
        let _ ← endings.mapM Step.await
        setStatus ((endings.getLast?.map Ending.seen).getD 0)
    else
      let endings ← stages p m none parts
      let statuses ← endings.mapM Step.await
      setStatus (statuses.getLast?.getD 0)
    checkFailure m
  | .redirected line script redirections => do
    modifySession fun s => { s with line := line }
    let rs ← Redirecting.resolve p redirections
    let _ ← Redirecting.within rs (p.run { isTested := m.isTested } script)
  | .subshell line script redirections => do
    modifySession fun s => { s with line := line }
    let rs ← Redirecting.resolve p redirections
    if m.isLast && (← session).traps.isEmpty then
      Lines.asSubshell p (redirectedBody p m rs script)
      throw .finished
    else
      let ending ← Step.fork (Lines.asSubshell p (redirectedBody p m rs script))
      setStatus (← Step.await ending)
      checkFailure m
  | .background line script redirections => do
    if line ≠ 0 then modifySession fun s => { s with line := line }
    let rs ← Redirecting.resolve p redirections
    unattended (Lines.asSubshell p (redirectedBody p {} rs (some script)))
  | .sequence first second => do
    p.run { isTested := m.isTested } first
    p.run m second
  | .andThen first second => do
    if ← succeeds p (some first) then p.run m second
  | .orElse first second => do
    if !(← succeeds p (some first)) then p.run m second
  | .negated script => do
    let yes ← succeeds p (some script)
    setStatus (if yes then 1 else 0)
  | .branch condition yes no => do
    if ← succeeds p condition then body p m yes
    else
      match no with
      | some script => p.run m script
      | none => setStatus 0
  | .loop inverted condition script => inLoop (loop p m inverted condition script rounds 0)
  | .each line name words script => do
    modifySession fun s => { s with line := line }
    let values ← match words with
      | none => pure (← session).arguments
      | some ws => Expansion.fields p ws
    setStatus 0
    inLoop (each p m name script values)
  | .choice line word arms => do
    modifySession fun s => { s with line := line }
    let text ← Expansion.target p word
    match ← armFor p text arms with
    | some (some script) => p.run m script
    | _ => setStatus 0
  | .definition line name script => do
    modifySession fun s =>
      { s with
        functions := (name, .definition line name script) ::
          s.functions.filter fun f => f.1 ≠ name
        status := 0 }

def run (m : Manner) (script : Script) : Step Unit := do
  if (← session).has 'n' then return
  Lines.runTraps p
  perScript p m script
  Lines.runTraps p

end Evaluation

end Shell

end BuildPlan
