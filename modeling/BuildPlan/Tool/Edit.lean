import BuildPlan.Tool.EditScript
import BuildPlan.Tool.Files

/-!
# Editing text

`sed` runs an edit script for every line of its input.

* `Edit.State` is what a run of a script works on: the line, the text held back, and the lines to come.
* `Edit.cycle` runs the script once; `Edit.run` runs it for all lines.
* `Edit.substituted` replaces stretches of a line.
-/

namespace BuildPlan

open Shell (Step)

namespace Tool

namespace Edit

/-! ### Replacing stretches -/

/-- Letters as a casing asks for: the casing under way, and one for the next letter alone. -/
structure Casing where
  /-- The casing under way. -/
  lasting : Char := 'E'
  /-- The casing of the next letter. -/
  once : Option Char := none

def cased (casing : Char) (c : Char) : Char :=
  if casing = 'U' || casing = 'u' then c.toUpper
  else if casing = 'L' || casing = 'l' then c.toLower
  else c

/-- A text in a casing, and the casing after it. -/
def casedText (k : Casing) : List Char → List Char × Casing
  | [] => ([], k)
  | c :: rest =>
    match k.once with
    | some once => (cased once c :: rest.map (cased k.lasting), { k with once := none })
    | none => ((c :: rest).map (cased k.lasting), k)

/-- What comes in place of a stretch. -/
def replacement (parts : List NewPart) (f : Regex.Fit) (s : Regex.Subject) : List Char :=
  (parts.foldl
    (fun (out, k) part => match part with
      | .casing c =>
        if c = 'u' || c = 'l' then (out, { k with once := some c })
        else (out, ({ lasting := c } : Casing))
      | .text cs =>
        let (t, k) := casedText k cs
        (out ++ t, k)
      | .group n =>
        let (t, k) := casedText k (f.group s n)
        (out ++ t, k))
    (([] : List Char), ({} : Casing))).1

/-- The text of a line from a position on with stretches replaced, and whether some are. The numbers say
how often to look at most, which stretch is the next, and where the last one ended. -/
def replacedFrom (r : Regex) (sub : Substitution) (s : Regex.Subject) :
    Nat → Nat → Nat → Option Nat → List Char × Bool
  | 0, start, _, _ => (s.slice start s.text.size, false)
  | bound + 1, start, count, last =>
    match Regex.find? s r start with
    | none => (s.slice start s.text.size, false)
    | some f =>
      let stop := f.way.position
      let before := s.slice start f.start
      let step (n : Nat) : List Char := s.slice n (n + 1)
      if f.start = stop && last = some stop then
        if s.text.size ≤ stop then (before, false)
        else
          let (more, did) := replacedFrom r sub s bound (stop + 1) count none
          (before ++ step stop ++ more, did)
      else if count < sub.first then
        let kept := before ++ f.group s 0
        if f.start = stop then
          if s.text.size ≤ stop then (kept, false)
          else
            let (more, did) := replacedFrom r sub s bound (stop + 1) (count + 1) none
            (kept ++ step stop ++ more, did)
        else
          let (more, did) := replacedFrom r sub s bound stop (count + 1) (some stop)
          (kept ++ more, did)
      else
        let put := before ++ replacement sub.parts f s
        if !sub.isGlobal then (put ++ s.slice stop s.text.size, true)
        else if f.start = stop then
          if s.text.size ≤ stop then (put, true)
          else
            let (more, _) := replacedFrom r sub s bound (stop + 1) (count + 1) none
            (put ++ step stop ++ more, true)
        else
          let (more, _) := replacedFrom r sub s bound stop (count + 1) (some stop)
          (put ++ more, true)

/-- The line with stretches replaced, and whether some are. -/
def substituted (r : Regex) (sub : Substitution) (line : List Char) : List Char × Bool :=
  replacedFrom r sub ⟨line.toArray, sub.ignoresCase⟩ (2 * line.length + 4) 0 1 none

/-! ### What a run works on -/

/-- A line of the input, without its end, and whether it has one. -/
abbrev Line := List Char × Bool

/-- What a run of a script works on. -/
structure State where
  space : List Char := []
  isEnded : Bool := true
  /-- The text held back. -/
  hold : List Char := []
  /-- The text held back has an end. -/
  holdEnded : Bool := true
  number : Nat := 0
  input : List Line := []
  /-- What has been printed, last text first. -/
  printed : List (List Char) := []
  /-- What has been printed last has no line end. -/
  lacksEnd : Bool := false
  /-- What is printed after the line. -/
  queue : List (List Char) := []
  /-- The ranges under way, each with its command and perhaps with its last line. -/
  active : List (Nat × Option Nat) := []
  /-- A stretch of the line has been replaced. -/
  did : Bool := false
  lastUsed : Option Regex := none
  /-- What files are written, last text first. -/
  written : List (List Char × List Char) := []
  /-- What files hold that may be read. -/
  files : List (List Char × List Char) := []
  /-- The name of the input. -/
  title : List Char := ['-']

namespace State

/-- Print a text and perhaps a line end. -/
def put (s : State) (text : List Char) (ended : Bool := true) : State :=
  let text := (if s.lacksEnd then ['\n'] else []) ++ text ++ (if ended then ['\n'] else [])
  { s with printed := text :: s.printed, lacksEnd := !ended }

def putSpace (s : State) : State := s.put s.space s.isEnded

def putRaw (s : State) (text : List Char) : State :=
  if text.isEmpty then s
  else
    { s with
      printed := ((if s.lacksEnd then ['\n'] else []) ++ text) :: s.printed
      lacksEnd := false }

/-- Print what is printed after the line. -/
def flush (s : State) : State := { s.queue.foldl putRaw s with queue := [] }

def isLast (s : State) : Bool := s.input.isEmpty

/-- The next line takes the place of the line, or comes after it. -/
def next? (s : State) (appends : Bool) : Option State :=
  match s.input with
  | [] => none
  | (line, ended) :: rest =>
    some
      { s with
        space := if appends then s.space ++ '\n' :: line else line
        isEnded := ended
        number := s.number + 1
        input := rest }

/-- Write the line to a file. -/
def write (s : State) (path text : List Char) : State :=
  if path = "/dev/stdout".toList then s.put text
  else { s with written := (path, text ++ ['\n']) :: s.written }

/-- The line passes a test. The expression used last is remembered. -/
def passes (s : State) : LineTest → Bool × State
  | .number n => (s.number == n, s)
  | .every first step =>
    (if step = 0 then s.number == first else decide (first ≤ s.number) && (s.number - first) % step == 0, s)
  | .last => (s.isLast, s)
  | .fits r ignores =>
    match r.orElse fun _ => s.lastUsed with
    | none => (false, s)
    | some r => ((Regex.find? ⟨s.space.toArray, ignores⟩ r 0).isSome, { s with lastUsed := some r })

/-- A range that a command is for starts at this line. -/
def startRange (s : State) (index : Nat) (e : LineEnd) : State :=
  let until_ (n : Nat) : State :=
    if n ≤ s.number then s else { s with active := (index, some n) :: s.active }
  match e with
  | .test (.number n) => until_ n
  | .later n => until_ (s.number + n)
  | .multiple n => if n = 0 then s else until_ ((s.number / n + 1) * n)
  | .test _ => { s with active := (index, none) :: s.active }

/-- The line lies in a range that is under way, or not. -/
def inRange (s : State) (index : Nat) (e : LineEnd) (endLine : Option Nat) : Bool × State :=
  let ended (s : State) : State := { s with active := s.active.filter fun a => a.1 ≠ index }
  match endLine, e with
  | some n, _ => (decide (s.number ≤ n), if n ≤ s.number then ended s else s)
  | none, .test t =>
    let (yes, s) := s.passes t
    (true, if yes then ended s else s)
  | none, _ => (true, s)

/-- The command at an index is for this line. -/
def selects (s : State) (index : Nat) : LineRange → Bool × State
  | .all => (true, s)
  | .one t => s.passes t
  | .span t e =>
    match s.active.lookup index with
    | some endLine => s.inRange index e endLine
    | none =>
      let (yes, s) := s.passes t
      if yes then (true, s.startRange index e) else (false, s)
  | .fromStart e =>
    match s.active.lookup index with
    | some endLine => s.inRange index e endLine
    | none => (false, s)

end State

/-! ### Running -/

/-- How a round of the script ends. -/
inductive After where
  /-- With the next line; the flag says that the line is printed first. -/
  | nextLine (prints : Bool)
  /-- The script starts again without another line. -/
  | again
  /-- The run ends with a status; the flag says that the line is printed first. -/
  | done (prints : Bool) (status : Nat)

/-- The line as `l` shows it, in pieces of a width. -/
def unambiguous (line : List Char) : List Char :=
  let shown (c : Char) : List Char :=
    match c with
    | '\\' => ['\\', '\\']
    | '\x07' => ['\\', 'a']
    | '\x08' => ['\\', 'b']
    | '\x0c' => ['\\', 'f']
    | '\n' => ['\\', 'n']
    | '\r' => ['\\', 'r']
    | '\t' => ['\\', 't']
    | '\x0b' => ['\\', 'v']
    | c =>
      if 32 ≤ c.toNat && c.toNat < 127 then [c]
      else
        let ds := Nat.toDigits 8 c.toNat
        '\\' :: List.replicate (3 - ds.length) '0' ++ ds
  let (out, _) := line.foldl
    (fun (out, width) c =>
      let piece := shown c
      if 69 < width + piece.length then (out ++ ['\\', '\n'] ++ piece, piece.length)
      else (out ++ piece, width + piece.length))
    (([] : List Char), 0)
  out ++ ['$']

def indexOf? (script : Array EditStep) (name : List Char) : Option Nat :=
  (List.range script.size).find? fun i =>
    match (script[i]?).map EditStep.command with
    | some (.label n) => n == name
    | _ => false

/-- Go on at an index: the state there, or how the round ends. -/
abbrev Going := State × (Nat ⊕ After)

/-- The next line is asked for by a command. Without one the run ends. -/
def advance (quiet : Bool) (s : State) (index : Nat) (appends : Bool) : Going :=
  if s.input.isEmpty then (s, .inr (.done (!quiet) 0))
  else
    let s := if appends || quiet then s else s.putSpace
    match s.flush.next? appends with
    | some s => (s, .inl (index + 1))
    | none => (s, .inr (.done (!quiet) 0))

def doLetter (quiet : Bool) (c : Char) (s : State) (index : Nat) : Going :=
  let goOn (s : State) : Going := (s, .inl (index + 1))
  match c with
  | '=' => goOn (s.put (Letters.ofNat s.number))
  | 'd' => (s, .inr (.nextLine false))
  | 'D' =>
    if s.space.contains '\n' then
      ({ s with space := (s.space.dropWhile (· ≠ '\n')).drop 1 }, .inr .again)
    else (s, .inr (.nextLine false))
  | 'g' => goOn { s with space := s.hold, isEnded := s.holdEnded }
  | 'G' => goOn { s with space := s.space ++ '\n' :: s.hold, isEnded := s.holdEnded }
  | 'h' => goOn { s with hold := s.space, holdEnded := s.isEnded }
  | 'H' => goOn { s with hold := s.hold ++ '\n' :: s.space, holdEnded := s.isEnded }
  | 'x' =>
    goOn { s with space := s.hold, isEnded := s.holdEnded, hold := s.space, holdEnded := s.isEnded }
  | 'z' => goOn { s with space := [] }
  | 'l' => goOn (s.put (unambiguous s.space))
  | 'p' => goOn s.putSpace
  | 'P' =>
    if s.space.contains '\n' then goOn (s.put (s.space.takeWhile (· ≠ '\n'))) else goOn s.putSpace
  | 'F' => goOn (s.put s.title)
  | 'n' => advance quiet s index false
  | 'N' => advance quiet s index true
  | _ => goOn s

/-- Do what the command at an index does. -/
def perform (script : Array EditStep) (quiet : Bool) (step : EditStep) (s : State) (index : Nat) : Going :=
  let goOn (s : State) : Going := (s, .inl (index + 1))
  match step.command with
  | .nothing => goOn s
  | .block _ => goOn s
  | .label _ => goOn s
  | .text 'i' cs => goOn (s.putRaw cs)
  | .text 'a' cs => goOn { s with queue := s.queue ++ [cs] }
  | .text _ cs =>
    let isInside := (s.active.lookup index).isSome && !step.inverted
    (if isInside then s else s.putRaw cs, .inr (.nextLine false))
  | .replace sub =>
    match sub.expression.orElse fun _ => s.lastUsed with
    | none => goOn s
    | some r =>
      let s := { s with lastUsed := some r }
      let (space, did) := substituted r sub s.space
      if did then
        let s := { s with space := space, did := true }
        let s := if sub.prints then s.putSpace else s
        goOn (sub.file.elim s fun path => s.write path s.space)
      else goOn s
  | .transliterate old new =>
    goOn { s with space := s.space.map fun c => ((old.zip new).lookup c).getD c }
  | .jump kind name =>
    let target := if name.isEmpty then script.size else (indexOf? script name).getD script.size
    if kind = 'b' then (s, .inl target)
    else if s.did == (kind == 't') then ({ s with did := false }, .inl target)
    else goOn { s with did := false }
  | .file 'r' path => goOn { s with queue := s.queue ++ [(s.files.lookup path).getD []] }
  | .file 'w' path => goOn (s.write path s.space)
  | .file _ _ => goOn s
  | .quit prints status => (s, .inr (.done (prints && !quiet) status))
  | .letter c => doLetter quiet c s index

/-- Run the script from an index on, at most so many commands. -/
def cycle (script : Array EditStep) (quiet : Bool) : Nat → State → Nat → State × After
  | 0, s, _ => (s, .done false 0)
  | fuel + 1, s, index =>
    match script[index]? with
    | none => (s, .nextLine (!quiet))
    | some step =>
      let (yes, s) := s.selects index step.range
      let isFor := yes != step.inverted
      match step.command with
      | .block size => cycle script quiet fuel s (if isFor then index + 1 else index + 1 + size)
      | _ =>
        if !isFor then cycle script quiet fuel s (index + 1)
        else
          match perform script quiet step s index with
          | (s, .inl next) => cycle script quiet fuel s next
          | (s, .inr after) => (s, after)

/-- How many commands are run for one line at most. -/
def cycleLimit : Nat := 100000

/-- Run the script for all lines, at most so many rounds. The flag says that the line is already there.
The status comes back too. -/
def run (script : Array EditStep) (quiet : Bool) : Nat → State → Bool → State × Nat
  | 0, s, _ => (s, 0)
  | bound + 1, s, isThere =>
    match if isThere then some s else s.next? false with
    | none => (s, 0)
    | some s =>
      let s := { s with did := false }
      match cycle script quiet cycleLimit s 0 with
      | (s, .nextLine prints) =>
        run script quiet bound (if prints then s.putSpace else s).flush false
      | (s, .again) => run script quiet bound s.flush true
      | (s, .done prints status) => ((if prints then s.putSpace else s).flush, status)

/-- The ranges that are under way from the start. -/
def activeAtStart (script : Array EditStep) : List (Nat × Option Nat) :=
  (List.range script.size).filterMap fun i =>
    match (script[i]?).map EditStep.range with
    | some (.fromStart _) => some (i, none)
    | _ => none

def linesOf (text : List Char) : List Line :=
  let pieces := text.splitOn '\n'
  let ended := pieces.dropLast.map fun l => (l, true)
  match pieces.getLast? with
  | some [] => ended
  | some l => ended ++ [(l, false)]
  | none => ended

/-- A script uses an expression that is to be the last one used before there is one. -/
def lacksExpression (script : List EditStep) : Bool :=
  let test : LineTest → Option Bool
    | .fits none _ => some true
    | .fits (some _) _ => some false
    | _ => none
  let ofRange : LineRange → List Bool
    | .one t => (test t).toList
    | .span t (.test u) => (test t).toList ++ (test u).toList
    | .span t _ => (test t).toList
    | .fromStart (.test t) => (test t).toList
    | _ => []
  let ofCommand : EditCommand → List Bool
    | .replace sub => [sub.expression.isNone]
    | _ => []
  (script.flatMap fun step => ofRange step.range ++ ofCommand step.command).head? = some true

end Edit

/-! ### The tool -/

/-- Complain about where a script is wrong. -/
def scriptFault (name : List Char) (scripts : List (List Char)) (fault : EditScript.Fault) : Step Unit := do
  let number := locate 1 0 scripts
  refuse name ("-e expression #".toList ++ Letters.ofNat number.1 ++ ", char ".toList ++
    Letters.ofNat (fault.1 - number.2) ++ ": ".toList ++ fault.2.toList)
where
  /-- The number of the script that a position lies in, and where it starts. -/
  locate (n start : Nat) : List (List Char) → Nat × Nat
    | [] => (1, 0)
    | [_] => (n, if fault.1 = 0 then 0 else start)
    | text :: rest =>
      if fault.1 ≤ start + text.length then (n, if fault.1 = 0 then 0 else start)
      else locate (n + 1) (start + text.length + 1) rest

def pathsRead (script : List EditStep) : List (List Char) :=
  script.filterMap fun step => match step.command with
    | .file 'r' path => some path
    | _ => none

def pathsWritten (script : List EditStep) : List (List Char) :=
  script.filterMap fun step => match step.command with
    | .file 'w' path => some path
    | .replace sub => sub.file
    | _ => none

/-- Run a script for a text. What comes back is the status, and the text if it is to be kept. -/
def edited (name : List Char) (script : List EditStep) (quiet : Bool) (title text : List Char)
    (keeps : Bool) : Step (Nat × List Char) := do
  let files ← (pathsRead script).filterMapM fun path => do
    match ← contentOf path with
    | .ok content => return some (path, content)
    | .error _ => return none
  let program := script.toArray
  let start : Edit.State :=
    { input := Edit.linesOf text
      active := Edit.activeAtStart program
      files := files
      title := title }
  let (s, status) := Edit.run program quiet (text.length + 2) start false
  s.written.reverse.forM fun (path, line) => do
    let _ ← overwrite path line true
  let out := s.printed.reverse.flatten
  if keeps then return (status, out)
  else
    say name out
    return (status, [])

/-- Edit a file in its place. What comes back is the status. -/
def editInPlace (name : List Char) (script : List EditStep) (quiet : Bool) (ending path : List Char) :
    Step Nat := do
  match ← found path with
  | .error o =>
    warn name ("can't read ".toList ++ path ++ ": ".toList ++ o.wording.toList)
    setStatus 2
    return 0
  | .ok (_, .directory) =>
    warn name ("couldn't edit ".toList ++ path ++ ": not a regular file".toList)
    setStatus 4
    return 0
  | .ok (loc, .file content mode) =>
    let text := Letters.ofBytes content
    let (status, out) ← edited name script quiet path text true
    if !ending.isEmpty then
      match ← Step.place (path ++ ending) with
      | .ok backup => Step.modifyTree fun t => t.put backup (.file content mode)
      | .error _ => pure ()
    Step.modifyTree fun t => t.put loc (.file (Letters.toBytes out) mode)
    return status

def editOptions : List Opt :=
  [⟨'n', "quiet", false⟩, ⟨'n', "silent", false⟩, ⟨'e', "expression", true⟩, ⟨'f', "file", true⟩,
    ⟨'E', "regexp-extended", false⟩, ⟨'r', "", false⟩, ⟨'s', "separate", false⟩,
    ⟨'u', "unbuffered", false⟩, ⟨'z', "null-data", false⟩, ⟨'i', "in-place", false⟩]

/-- The words with what comes after `-i` taken out, and the ending for copies that it gives. -/
def withoutEndings (words : List (List Char)) : List (List Char) × List Char :=
  words.foldr
    (fun w (ws, ending) =>
      match w with
      | '-' :: 'i' :: rest => (['-', 'i'] :: ws, if rest.isEmpty then ending else rest)
      | w =>
        match Letters.after? "--in-place=".toList w with
        | some rest => (['-', 'i'] :: ws, rest)
        | none => (w :: ws, ending))
    ([], [])

/-- The scripts that options give, or the first operand, and the other operands. -/
def scriptsOf (name : List Char) (a : Arguments) : Step (List (List Char) × List (List Char)) := do
  let given := a.options.filter fun o => o.1 == 'e' || o.1 == 'f'
  if given.isEmpty then
    match a.operands with
    | [] =>
      Step.putError ("Usage: ".toList ++ name ++
        " [OPTION]... \x7bscript-only-if-no-other-script\x7d [input-file]...\n".toList)
      finish 1
    | text :: rest => return ([text], rest)
  else
    let texts ← given.mapM fun o => do
      if o.1 == 'e' then return o.2
      else
        match ← input o.2 with
        | .ok text => return Letters.withoutLineEnds text
        | .error why =>
          refuse name ("couldn't open file ".toList ++ o.2 ++ ": ".toList ++ why.wording.toList)
    return (texts, a.operands)

def sed : Tool := fun name arguments => do
  setStatus 0
  let (words, ending) := withoutEndings arguments
  let a ← options name editOptions words
  let (texts, files) ← scriptsOf name a
  let text := ['\n'].intercalate texts
  let quiet := a.has 'n' || "#n\n".toList.isPrefixOf (text ++ ['\n'])
  match EditScript.read (a.has 'E' || a.has 'r') text with
  | .error fault => scriptFault name texts fault
  | .ok script =>
    let labels := script.filterMap fun step => match step.command with
      | .jump _ target => if target.isEmpty then none else some target
      | _ => none
    if let some l := labels.find? fun l => (Edit.indexOf? script.toArray l).isNone then
      refuse name ("can't find label for jump to \x60".toList ++ l ++ ['\''])
    (pathsWritten script).forM fun path => do
      if path ≠ "/dev/stdout".toList then
        if let some o ← overwrite path [] then
          refuse name ("couldn't open file ".toList ++ path ++ ": ".toList ++ o.wording.toList) 4
    if a.has 'i' then
      let statuses ← files.mapM (editInPlace name script quiet ending)
      if let some n := statuses.find? (· ≠ 0) then setStatus n
    else
      let files := if files.isEmpty then [['-']] else files
      let texts ← files.filterMapM fun file => do
        match ← input file with
        | .ok text => return some (file, text)
        | .error .isDirectory =>
          warn name ("read error on ".toList ++ file ++ ": Is a directory".toList)
          setStatus 4
          return none
        | .error o =>
          warn name ("can't read ".toList ++ file ++ ": ".toList ++ o.wording.toList)
          setStatus 2
          return none
      let lines := texts.map fun t => t.2
      if !lines.all List.isEmpty && Edit.lacksExpression script then
        refuse name "-e expression #1, char 0: no previous regular expression".toList
      let complete (isLast : Bool) (text : List Char) : List Char :=
        if isLast || text.isEmpty || text.getLast? = some '\n' then text else text ++ ['\n']
      let status ←
        if a.has 's' then do
          let statuses ← texts.mapM fun t => return (← edited name script quiet t.1 t.2 false).1
          pure ((statuses.find? (· ≠ 0)).getD 0)
        else do
          let text := (lines.dropLast.map (complete false)).flatten ++ (lines.getLast?).getD []
          pure (← edited name script quiet ((texts.head?.map Prod.fst).getD ['-']) text false).1
      if status ≠ 0 then setStatus status

/-- A text edited by a script, for the examples. -/
private def editedText (script text : String) : String :=
  match EditScript.read false script.toList with
  | .error _ => ""
  | .ok steps =>
    let s := (Edit.run steps.toArray false (text.length + 2)
      { input := Edit.linesOf text.toList } false).1
    String.ofList s.printed.reverse.flatten

example : editedText "s/l/L/g" "hello\n" = "heLLo\n" := by decide +kernel
example : editedText "s/x*/-/g;2d" "ab\nb" = "-a-b-\n" := by decide +kernel
example : editedText "1!G;h;$!d" "1\n2\n3\n" = "3\n2\n1\n" := by decide +kernel

end Tool

end BuildPlan
