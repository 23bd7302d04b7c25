import BuildPlan.Shell.Builtin.Basic

/-!
# Builtins for variables

`export`, `readonly`, `local`, `unset`, `set`, `shift`, `getopts`, `read`, `alias` and `unalias`.

* `Builtin.readOptions` reads the options of a shell, on its command line or after `set`.
* `Builtin.splitLine` is how `read` cuts a line: all fields but the last are cut as usual, and the last
  takes the rest.
-/

namespace BuildPlan

namespace Shell

open Step (session modifySession setStatus)

namespace Builtin

/-! ### Names and values -/

/-- The name in a word, and the value after an equals sign if there is one. -/
def declared (w : List Char) : List Char × Option (List Char) :=
  let name := w.takeWhile (· ≠ '=')
  match w.dropWhile (· ≠ '=') with
  | _ :: value => (name, some value)
  | [] => (name, none)

/-- Variables as a shell would set them again, sorted by name. -/
def listing (start : List Char) (p : Variable → Bool) (s : Session) : List (List Char) :=
  let lines := (s.bindings.filter fun b => p b.2).map fun (name, v) =>
    (name, match v.value with
      | some value => start ++ name ++ ['='] ++ inQuotes value
      | none => start ++ name)
  (lines.mergeSort fun a b => Letters.before a.1 b.1).map Prod.snd

/-- Mark a variable, perhaps giving it a value. -/
def markOne (change : Variable → Variable) (w : List Char) : Step Unit := do
  let (name, value?) := declared w
  requireName name
  value?.forM (Expansion.assign name)
  modifySession fun s => s.bind name (change ((s.look? name).getD {}))

/-- Mark variables, or list those that are marked. -/
def mark (name : List Char) (isMarked : Variable → Bool) (change : Variable → Variable)
    (arguments : List (List Char)) : Step Unit := do
  let (options, words) ← optionsOf "p" arguments
  setStatus 0
  if words.isEmpty || !options.isEmpty then
    emitLines (listing (name ++ [' ']) isMarked (← session))
  else words.forM (markOne change)

def exportVariables : List (List Char) → Step Unit :=
  mark "export".toList Variable.isExported fun v => { v with isExported := true }

/-- Variables keep their values. -/
def fixVariables : List (List Char) → Step Unit :=
  mark "readonly".toList Variable.isConstant fun v => { v with isConstant := true }

/-- Remember what a variable is, to be so again after the function under way. -/
def remember (name : List Char) : Step Unit :=
  modifySession fun s =>
    match s.locals with
    | [] => s
    | here :: outer =>
      if (here.lookup name).isSome then s
      else { s with locals := ((name, s.look? name) :: here) :: outer }

/-- Make a variable a function's own. A hyphen stands for the options. -/
def localOne (w : List Char) : Step Unit := do
  let (name, value?) := declared w
  if name = ['-'] then
    modifySession fun s =>
      match s.locals with
      | [] => s
      | here :: outer =>
        if (here.lookup ['-']).isSome then s
        else { s with locals := ((['-'], some { value := some s.options }) :: here) :: outer }
  else
    requireName name
    remember name
    value?.forM (Expansion.assign name)

/-- Make variables a function's own. -/
def localVariables (arguments : List (List Char)) : Step Unit := do
  if (← session).locals.isEmpty then Step.fail "not in a function".toList
  else
    setStatus 0
    arguments.forM localOne

def unsetOne (name : List Char) : Step Unit := do
  requireName name
  if ((← session).look? name).any fun v => v.isConstant then
    Step.fail (name ++ ": is read only".toList)
  else modifySession fun s => s.unbind name

/-- Forget variables or functions. -/
def unset (arguments : List (List Char)) : Step Unit := do
  let (options, names) ← optionsOf "vf" arguments
  setStatus 0
  if (options.getLast?).any fun o => o.1 == 'f' then
    modifySession fun s => { s with functions := s.functions.filter fun f => !names.contains f.1 }
  else names.forM unsetOne

/-! ### Options and arguments -/

/-- What the options of a shell say besides what is set. -/
structure ShellOptions where
  hasCommand : Bool := false
  /-- The arguments are given, even if there are none. -/
  hasArguments : Bool := false
  /-- The settings are to be listed, perhaps as commands. -/
  lists : Option Bool := none

def optionOfName (name : List Char) (on : Bool) : Step Char :=
  match Session.optionNames.lookup (String.ofList name) with
  | some c => return c
  | none =>
    Step.fail ("Illegal option ".toList ++ [if on then '-' else '+', 'o', ' '] ++ name)

/-- Set the options that letters name, which start with a sign. What comes back says which word is
left and what else they say. -/
def readLetters (isStart on : Bool) : List Char → List (List Char) → ShellOptions →
    Step (List (List Char) × ShellOptions)
  | [], rest, o => return (rest, o)
  | c :: cs, rest, o =>
    if c = 'c' ∧ isStart then readLetters isStart on cs rest { o with hasCommand := true }
    else if c = 'o' then
      match rest with
      | [] => readLetters isStart on cs [] { o with lists := some !on }
      | name :: rest => do
        let letter ← optionOfName name on
        modifySession fun s => s.setOption letter on
        readLetters isStart on cs rest o
    else if Session.optionLetters.contains c then do
      modifySession fun s => s.setOption c on
      readLetters isStart on cs rest o
    else Step.fail ("Illegal option -".toList ++ [c])

/-- Read options. The flag says that they are those of a shell's command line. The number bounds how
many words there are. -/
def readOptionsWithin (isStart : Bool) : Nat → List (List Char) → ShellOptions →
    Step (List (List Char) × ShellOptions)
  | 0, words, o => return (words, o)
  | bound + 1, words, o =>
    match words with
    | ['-'] :: rest => do
      if !isStart then modifySession fun s => (s.setOption 'x' false).setOption 'v' false
      return (rest, o)
    | ['-', '-'] :: rest => return (rest, { o with hasArguments := true })
    | ('-' :: cs) :: rest => do
      let (rest, o) ← readLetters isStart true cs rest o
      readOptionsWithin isStart bound rest o
    | ('+' :: cs) :: rest => do
      let (rest, o) ← readLetters isStart false cs rest o
      readOptionsWithin isStart bound rest o
    | words => return (words, o)

def readOptions (isStart : Bool) (words : List (List Char)) :
    Step (List (List Char) × ShellOptions) :=
  readOptionsWithin isStart (words.length + 1) words {}

def settingsTable (s : Session) : List (List Char) :=
  "Current option settings".toList :: Session.optionNames.map fun (name, c) =>
    name.toList ++ List.replicate (16 - name.length) ' ' ++ (if s.has c then "on" else "off").toList

def settingsCommands (s : Session) : List (List Char) :=
  Session.optionNames.map fun (name, c) =>
    (if s.has c then "set -o " else "set +o ").toList ++ name.toList

/-- Set options and arguments, or list the variables. -/
def set (arguments : List (List Char)) : Step Unit := do
  if arguments.isEmpty then
    setStatus 0
    emitLines (listing [] (fun v => v.value.isSome) (← session))
  else
    let (words, o) ← readOptions false arguments
    setStatus 0
    if !words.isEmpty || o.hasArguments then
      modifySession fun s => { s with arguments := words, optionOffset := none }
    match o.lists with
    | some true => emitLines (settingsCommands (← session))
    | some false => emitLines (settingsTable (← session))
    | none => return

def shift (arguments : List (List Char)) : Step Unit := do
  let n ← match arguments with
    | [] => pure 1
    | w :: _ => count w
  if (← session).arguments.length < n then Step.fail "can't shift that many".toList
  else
    modifySession fun s =>
      { s with arguments := s.arguments.drop n, optionOffset := none, status := 0 }

/-- The next option among words: what the variable gets, the value of the option, the next position,
and the offset in the word there. Nothing comes back at the end of the options. -/
structure NextOption where
  letter : Char
  value : Option (List Char) := none
  /-- What is to be said about it. -/
  complaint : Option (List Char) := none
  position : Nat
  offset : Option Nat := none

def nextOption (letters : List Char) (words : List (List Char)) (position : Nat)
    (offset : Option Nat) : Option NextOption :=
  let quiet := letters.head? = some ':'
  match words[position - 1]? with
  | none => none
  | some w =>
    let at_ := offset.getD 1
    let isOption := match w with
      | '-' :: _ :: _ => true
      | _ => false
    if offset.isNone && (!isOption || w = ['-', '-']) then none
    else
      match w[at_]? with
      | none => none
      | some c =>
        let isLast := w.length ≤ at_ + 1
        let here : Nat × Option Nat := if isLast then (position + 1, none) else (position, some (at_ + 1))
        let found := (letters.dropWhile (· ≠ c)).drop 1
        if c = ':' || !letters.contains c then
          some {
            letter := '?'
            value := if quiet then some [c] else none
            complaint := if quiet then none else some ("Illegal option -".toList ++ [c])
            position := here.1
            offset := here.2 }
        else if found.head? = some ':' then
          if !isLast then
            some { letter := c, value := some (w.drop (at_ + 1)), position := position + 1 }
          else
            match words[position]? with
            | some value => some { letter := c, value := some value, position := position + 2 }
            | none =>
              some {
                letter := if quiet then ':' else '?'
                value := if quiet then some [c] else none
                complaint :=
                  if quiet then none
                  else some ("No arg for -".toList ++ [c] ++ " option".toList)
                position := position + 1 }
        else some { letter := c, position := here.1, offset := here.2 }

/-- Put the next option into a variable. -/
def getopts (arguments : List (List Char)) : Step Unit := do
  match arguments with
  | letters :: name :: words =>
    let s ← session
    let words := if words.isEmpty then s.arguments else words
    let position := max 1 (((s.boundValue? "OPTIND".toList).bind Decimal.count?).getD 1)
    let position := if s.optionOffset.isSome then position - 1 else position
    match nextOption letters words position s.optionOffset with
    | none =>
      let atMark := words[position - 1]? = some ['-', '-'] && s.optionOffset.isNone
      Expansion.assign "OPTIND".toList (Letters.ofNat (if atMark then position + 1 else position))
      Expansion.assign name ['?']
      setStatus 1
    | some o =>
      o.complaint.forM fun text => Step.putError (text ++ ['\n'])
      settle name o
  | _ => Step.fail "Usage: getopts optstring var [arg...]".toList
where
  /-- Set the variables for an option. -/
  settle (name : List Char) (o : NextOption) : Step Unit := do
    match o.value with
    | some value => Expansion.assign "OPTARG".toList value
    | none => modifySession fun s => s.unbind "OPTARG".toList
    Expansion.assign "OPTIND".toList
      (Letters.ofNat (if o.offset.isSome then o.position + 1 else o.position))
    modifySession fun s => { s with optionOffset := o.offset }
    setStatus 0
    Expansion.assign name [o.letter]

/-! ### Reading -/

/-- A character of a line, with whether it is quoted. -/
abbrev Mark := Bool × Char

/-- The first field of a line and the rest, separators between them dropped. -/
def firstField (separators : List Char) (line : List Mark) : List Char × List Mark :=
  let separates (m : Mark) : Bool := !m.1 && separators.contains m.2
  let isGap (m : Mark) : Bool := separates m && Bit.isBlank m.2
  let field := line.takeWhile (!separates ·)
  let rest := (line.dropWhile (!separates ·)).dropWhile isGap
  match rest with
  | m :: after =>
    if separates m then (field.map Prod.snd, after.dropWhile isGap) else (field.map Prod.snd, rest)
  | [] => (field.map Prod.snd, [])

/-- A line cut into so many fields: the last takes the rest. -/
def splitFrom (separators : List Char) : Nat → List Mark → List (List Char)
  | 0, _ => []
  | 1, line =>
    let isGap (m : Mark) : Bool := !m.1 && separators.contains m.2 && Bit.isBlank m.2
    let (field, rest) := firstField separators line
    if rest.isEmpty then [field]
    else [(line.reverse.dropWhile isGap).reverse.map Prod.snd]
  | n + 2, line =>
    let (field, rest) := firstField separators line
    field :: splitFrom separators (n + 1) rest

/-- A line cut into so many fields. -/
def splitLine (separators : List Char) (n : Nat) (line : List Mark) : List (List Char) :=
  let isGap (m : Mark) : Bool := !m.1 && separators.contains m.2 && Bit.isBlank m.2
  splitFrom separators n (line.dropWhile isGap)

/-- A line at the start of a text: its characters, how much of the text it takes, and whether it is
ended. Unless it is taken raw, a backslash quotes what follows it. -/
def lineOf (isRaw : Bool) : List Char → List Mark × Nat × Bool
  | [] => ([], 0, false)
  | '\n' :: _ => ([], 1, true)
  | '\\' :: c :: rest =>
    if isRaw then
      let (more, n, ended) := lineOf isRaw (c :: rest)
      ((false, '\\') :: more, n + 1, ended)
    else
      let (more, n, ended) := lineOf isRaw rest
      (if c = '\n' then more else (true, c) :: more, n + 2, ended)
  | c :: rest =>
    let (more, n, ended) := lineOf isRaw rest
    (if c = '\\' && !isRaw then more else (false, c) :: more, n + 1, ended)

/-- Read a line into variables. -/
def read (arguments : List (List Char)) : Step Unit := do
  let (options, names) ← optionsOf "p:r" arguments
  if names.isEmpty then Step.fail "arg count".toList
  else
    let isRaw := options.any fun o => o.1 == 'r'
    match ← Step.lookAhead 0 with
    | none =>
      names.forM fun name => do
        requireName name
        Expansion.assign name []
      setStatus 1
    | some text =>
      let (line, n, ended) := lineOf isRaw text
      Step.skip 0 n
      setStatus (if ended then 0 else 1)
      let line := line.filter fun m => m.2 ≠ '\x00'
      let values := splitLine (← session).separators names.length line
      (names.zip values).forM fun (name, value) => do
        requireName name
        Expansion.assign name value

/-! ### Words that stand for other text -/

def aliasLine (name value : List Char) : List Char := name ++ ['='] ++ inQuotes value

def aliasOne (w : List Char) : Step Unit := do
  match declared w with
  | (name, some value) =>
    modifySession fun s =>
      { s with aliases := (name, value) :: s.aliases.filter fun a => a.1 ≠ name }
  | (name, none) =>
    match (← session).aliases.lookup name with
    | some value => emitLines [aliasLine name value]
    | none =>
      Step.putError ("alias: ".toList ++ name ++ " not found\n".toList)
      setStatus 1

def aliases (arguments : List (List Char)) : Step Unit := do
  setStatus 0
  if arguments.isEmpty then
    let s ← session
    emitLines ((s.aliases.mergeSort fun a b => Letters.before a.1 b.1).map fun a => aliasLine a.1 a.2)
  else arguments.forM aliasOne

def unalias (arguments : List (List Char)) : Step Unit := do
  let (options, names) ← optionsOf "a" arguments
  setStatus 0
  if !options.isEmpty then modifySession fun s => { s with aliases := [] }
  else
    names.forM fun name => do
      if ((← session).aliases.lookup name).isSome then
        modifySession fun s => { s with aliases := s.aliases.filter fun a => a.1 ≠ name }
      else
        Step.putError ("unalias: ".toList ++ name ++ " not found\n".toList)
        setStatus 1

example : splitLine [':'] 2 ("a:b:".toList.map fun c => (false, c)) = [['a'], ['b']] := by decide
example : splitLine [':'] 2 ("a:b:c:".toList.map fun c => (false, c)) = [['a'], "b:c:".toList] := by
  decide
example : splitLine [' '] 3 (" a  b ".toList.map fun c => (false, c)) = [['a'], ['b'], []] := by decide

end Builtin

end Shell

end BuildPlan
