import BuildPlan.Shell.Printing
import BuildPlan.Tool.Regex

/-!
# Edit scripts

An edit script is a list of commands, each with the lines it is for. `EditScript.read` reads one.

* `LineTest` is an address, `LineRange` what addresses select.
* `EditCommand` is a command, `Substitution` the one that replaces.

Blocks are kept flat: the command that opens one knows how many commands it holds.
-/

namespace BuildPlan

namespace Tool

inductive LineTest where
  | number (n : Nat)
  /-- The number of the line is so many steps after another. -/
  | every (first step : Nat)
  | last
  /-- An expression fits, the last one used if none is given. -/
  | fits (r : Option Regex) (ignoresCase : Bool)

/-- The end of a range of lines. -/
inductive LineEnd where
  | test (t : LineTest)
  | later (n : Nat)
  /-- A line whose number is a multiple. -/
  | multiple (n : Nat)

/-- The lines that a command is for. -/
inductive LineRange where
  | all
  /-- Those that pass a test. -/
  | one (t : LineTest)
  /-- Those from one to another. -/
  | span (t : LineTest) (e : LineEnd)
  /-- Those from before the first to another. -/
  | fromStart (e : LineEnd)

/-- A part of what is put in place of a stretch. -/
inductive NewPart where
  | text (cs : List Char)
  | group (n : Nat)
  /-- From here on letters are made capital or small, or left alone. -/
  | casing (c : Char)

structure Substitution where
  /-- The expression, the last one used if none is given. -/
  expression : Option Regex
  /-- Small and capital letters are the same. -/
  ignoresCase : Bool := false
  parts : List NewPart
  /-- The first stretch that is replaced. -/
  first : Nat := 1
  /-- The stretches after it are replaced too. -/
  isGlobal : Bool := false
  prints : Bool := false
  /-- The line is written to a file. -/
  file : Option (List Char) := none

inductive EditCommand where
  /-- Go on after so many commands unless the line is selected. -/
  | block (size : Nat)
  | nothing
  /-- Print a text before, in place of, or after the line. -/
  | text (kind : Char) (cs : List Char)
  | replace (s : Substitution)
  | transliterate (old new : List Char)
  /-- Go to a label, or to the end. -/
  | jump (kind : Char) (label : List Char)
  | label (name : List Char)
  /-- Read a file, or write one. -/
  | file (kind : Char) (path : List Char)
  | quit (prints : Bool) (status : Nat)
  | letter (c : Char)

/-- A command with the lines it is for. -/
structure EditStep where
  range : LineRange := .all
  /-- It is for the other lines. -/
  inverted : Bool := false
  command : EditCommand

namespace EditScript

/-! ### Reading -/

/-- The text still to be read, and how much of it there was. -/
structure Cursor where
  /-- The text still to be read. -/
  rest : List Char
  /-- The length of the whole. -/
  size : Nat
  extended : Bool

/-- Why a script cannot be read: a position, if it is known, and a wording. -/
abbrev Fault := Nat × String

abbrev Reading := StateT Cursor (Except Fault)

/-- The script cannot be read. -/
def fail {α : Type} (why : String) : Reading α := do
  let c ← get
  throw (c.size - c.rest.length, why)

/-- The next character, which stays where it is. -/
def peek? : Reading (Option Char) := return (← get).rest.head?

def drop (n : Nat) : Reading Unit := modify fun c => { c with rest := c.rest.drop n }

/-- Take characters as long as they pass a test. -/
def takeWhile (p : Char → Bool) : Reading (List Char) := do
  let c ← get
  set { c with rest := c.rest.dropWhile p }
  return c.rest.takeWhile p

def isBlank (c : Char) : Bool := c == ' ' || c == '\t'

/-- A blank or a line end. -/
def isSpace (c : Char) : Bool := isBlank c || c == '\n'

def number : Reading Nat := return Shell.Decimal.natural (← takeWhile Char.isDigit)

/-- The text of a set in brackets up to its end, with the brackets. The first of them has been seen. -/
def bracketed (cs : List Char) : List Char :=
  let start := match cs with
    | '[' :: '^' :: ']' :: _ => cs.take 3
    | '[' :: '^' :: _ => cs.take 2
    | '[' :: ']' :: _ => cs.take 2
    | _ => cs.take 1
  start ++ inner cs.length (cs.drop start.length)
where
  /-- The text up to the closing bracket, classes and the like kept whole. -/
  inner : Nat → List Char → List Char
    | 0, _ => []
    | _ + 1, [] => []
    | _ + 1, ']' :: _ => [']']
    | bound + 1, '[' :: c :: rest =>
      if c = ':' || c = '.' || c = '=' then
        let body := closing c rest
        '[' :: c :: body ++ inner bound (rest.drop body.length)
      else '[' :: inner bound (c :: rest)
    | bound + 1, c :: rest => c :: inner bound rest
  /-- The text up to a character with a closing bracket after it. -/
  closing (c : Char) : List Char → List Char
    | d :: ']' :: rest => if d = c then [d, ']'] else d :: closing c (']' :: rest)
    | d :: rest => d :: closing c rest
    | [] => []

/-- The text up to a delimiter, which is taken too. Nothing comes back if there is none. A backslash
before the delimiter goes, and one before `n` makes a line end. The flags say that sets in brackets are
kept whole and that a line end is no text. -/
def upTo (delimiter : Char) (isExpression : Bool) : Nat → Reading (Option (List Char))
  | 0 => return none
  | bound + 1 => do
    match (← get).rest with
    | [] => return none
    | '\\' :: c :: _ =>
      drop 2
      let piece : List Char :=
        if c = delimiter then [c]
        else if c = 'n' && isExpression then ['\n']
        else ['\\', c]
      return (← upTo delimiter isExpression bound).map (piece ++ ·)
    | c :: rest =>
      if c = delimiter then
        drop 1
        return some []
      else if c = '\n' && isExpression then return none
      else if c = '[' && isExpression then
        let set_ := bracketed (c :: rest)
        drop set_.length
        return (← upTo delimiter isExpression bound).map (set_ ++ ·)
      else
        drop 1
        return (← upTo delimiter isExpression bound).map (c :: ·)

/-- A bound on how many characters there are. -/
def bound : Reading Nat := return (← get).rest.length + 2

/-- The character that an escape stands for, and what comes after it. The backslash has been taken. -/
def escaped? : List Char → Option (Char × List Char)
  | 't' :: rest => some ('\t', rest)
  | 'f' :: rest => some ('\x0c', rest)
  | 'v' :: rest => some ('\x0b', rest)
  | 'r' :: rest => some ('\r', rest)
  | 'a' :: rest => some ('\x07', rest)
  | 'n' :: rest => some ('\n', rest)
  | 'x' :: rest =>
    let digits := (rest.take 2).takeWhile (Shell.Decimal.isDigitIn 16)
    if digits.isEmpty then none
    else some (Char.ofNat (Shell.Decimal.valueIn 16 digits), rest.drop digits.length)
  | _ => none

/-- The text of an expression with the escapes for characters replaced. The number bounds its length. -/
def unescaped : Nat → List Char → List Char
  | 0, _ => []
  | _ + 1, [] => []
  | bound + 1, '\\' :: c :: rest =>
    match escaped? (c :: rest) with
    | some (d, after) => d :: unescaped bound after
    | none => '\\' :: c :: unescaped bound rest
  | bound + 1, c :: rest => c :: unescaped bound rest

/-- Read the text of an expression. An empty one stands for the last one used. -/
def expression (text : List Char) : Reading (Option Regex) := do
  if text.isEmpty then return none
  else
    match Regex.read (← get).extended (unescaped (text.length + 1) text) with
    | .ok r => return some r
    | .error why => fail why

/-- Read a test of a line, if there is one. -/
def lineTest : Reading (Option LineTest) := do
  match ← peek? with
  | none => return none
  | some c =>
    if c.isDigit then
      let n ← number
      let _ ← takeWhile isBlank
      if (← peek?) = some '~' then
        drop 1
        return some (.every n (← number))
      else return some (.number n)
    else if c = '$' then
      drop 1
      return some .last
    else if c = '/' then
      drop 1
      return some (← between '/')
    else if c = '\\' then
      drop 1
      match ← peek? with
      | none => fail "unexpected \x60,'"
      | some d =>
        drop 1
        return some (← between d)
    else return none
where
  /-- An expression up to a delimiter, with the letters after it. -/
  between (delimiter : Char) : Reading LineTest := do
    match ← upTo delimiter true (← bound) with
    | none => fail "unterminated address regex"
    | some text =>
      let flags ← takeWhile fun c => c == 'I' || c == 'M'
      return .fits (← expression text) (flags.contains 'I')

def lineEnd : Reading LineEnd := do
  match ← peek? with
  | some '+' =>
    drop 1
    return .later (← number)
  | some '~' =>
    drop 1
    return .multiple (← number)
  | _ =>
    match ← lineTest with
    | some t => return .test t
    | none =>
      drop 1
      fail "unexpected \x60,'"

/-- Read the lines that a command is for. -/
def lineRange : Reading LineRange := do
  match ← lineTest with
  | none => return .all
  | some t =>
    let _ ← takeWhile isBlank
    let isZero := match t with
      | .number 0 => true
      | _ => false
    if (← peek?) = some ',' then
      drop 1
      let _ ← takeWhile isBlank
      let e ← lineEnd
      match isZero, e with
      | true, .test (.fits _ _) => return .fromStart e
      | true, _ =>
        drop 1
        fail "invalid usage of line address 0"
      | false, e => return .span t e
    else if isZero then
      drop 1
      fail "invalid usage of line address 0"
    else return .one t

/-- The parts of what comes in place of a stretch. The number bounds the length. -/
def newParts : Nat → List Char → List NewPart
  | 0, _ => []
  | _ + 1, [] => []
  | bound + 1, '\\' :: c :: rest =>
    if c.isDigit then .group (c.toNat - '0'.toNat) :: newParts bound rest
    else if ['L', 'U', 'E', 'l', 'u'].contains c then .casing c :: newParts bound rest
    else if c = '\n' then .text ['\n'] :: newParts bound rest
    else
      match escaped? (c :: rest) with
      | some (d, after) => .text [d] :: newParts bound after
      | none => .text [c] :: newParts bound rest
  | bound + 1, '&' :: rest => .group 0 :: newParts bound rest
  | bound + 1, c :: rest => .text [c] :: newParts bound rest

/-- The greatest number of a group that parts ask for. -/
def greatestGroup (parts : List NewPart) : Nat :=
  parts.foldl (fun n p => match p with
    | .group m => max n m
    | _ => n) 0

/-- How many groups an expression has. -/
def groupCount : Regex → Nat
  | .group n r => max n (groupCount r)
  | .sequence a b => max (groupCount a) (groupCount b)
  | .either a b => max (groupCount a) (groupCount b)
  | .repeated r _ _ => groupCount r
  | _ => 0

/-- Nothing but blanks may come up to the end of a command, which is taken unless it closes a block. -/
def endOfCommand : Reading Unit := do
  let _ ← takeWhile isBlank
  match ← peek? with
  | none => return
  | some '\n' => drop 1
  | some ';' => drop 1
  | some '\x7d' => return
  | some '#' => return
  | some _ =>
    drop 1
    fail "extra characters after command"

def substitutionFlags : Nat → Substitution → Bool → Reading (Substitution × Bool)
  | 0, s, i => return (s, i)
  | bound + 1, s, ignores => do
    match ← peek? with
    | none => return (s, ignores)
    | some c =>
      if c = 'g' then
        drop 1
        if s.isGlobal then fail "multiple \x60g' options to \x60s' command"
        else substitutionFlags bound { s with isGlobal := true } ignores
      else if c = 'p' then
        drop 1
        if s.prints then fail "multiple \x60p' options to \x60s' command"
        else substitutionFlags bound { s with prints := true } ignores
      else if c = 'i' || c = 'I' then
        drop 1
        substitutionFlags bound s true
      else if c = 'm' || c = 'M' then
        drop 1
        substitutionFlags bound s ignores
      else if c = 'w' then
        drop 1
        let _ ← takeWhile isBlank
        let path ← takeWhile (· ≠ '\n')
        return ({ s with file := some path }, ignores)
      else if c.isDigit then
        let n ← number
        if n = 0 then fail "number option to \x60s' command may not be zero"
        else substitutionFlags bound { s with first := n } ignores
      else if isSpace c || c = ';' || c = '\x7d' || c = '#' then return (s, ignores)
      else
        drop 1
        fail "unknown option to \x60s'"

/-- Read a substitution. Its letter has been taken. -/
def substitution : Reading EditCommand := do
  match ← peek? with
  | none => fail "unterminated \x60s' command"
  | some delimiter =>
    drop 1
    let parts : Reading (Option (List Char × List Char)) := do
      match ← upTo delimiter true (← bound) with
      | none => return none
      | some old =>
        match ← upTo delimiter false (← bound) with
        | none => return none
        | some new => return some (old, new)
    match ← parts with
    | none =>
      drop (← bound)
      fail "unterminated \x60s' command"
    | some (old, new) =>
      let parts := newParts (new.length + 1) new
      let (s, ignores) ← substitutionFlags (← bound) { expression := none, parts := parts } false
      let r ← expression old
      match r with
      | some r =>
        let n := greatestGroup parts
        if groupCount r < n then
          fail ("invalid reference \\" ++ toString n ++ " on \x60s' command's RHS")
      | none => pure ()
      endOfCommand
      return .replace { s with expression := r, ignoresCase := ignores }

def plainCharacters : List Char → List Char
  | '\\' :: 'n' :: rest => '\n' :: plainCharacters rest
  | '\\' :: c :: rest => c :: plainCharacters rest
  | c :: rest => c :: plainCharacters rest
  | [] => []

/-- Read a replacement of characters. Its letter has been taken. -/
def transliteration : Reading EditCommand := do
  match ← peek? with
  | none => fail "unterminated \x60y' command"
  | some delimiter =>
    drop 1
    match ← upTo delimiter false (← bound) with
    | none => fail "unterminated \x60y' command"
    | some old =>
      match ← upTo delimiter false (← bound) with
      | none => fail "unterminated \x60y' command"
      | some new =>
        let old := plainCharacters old
        let new := plainCharacters new
        if old.length ≠ new.length then fail "strings for \x60y' command are different lengths"
        else
          endOfCommand
          return .transliterate old new

/-- The lines of a text up to the first whose end has no backslash before it. Other backslashes go. -/
def textLines : Nat → Reading (List Char)
  | 0 => return []
  | bound + 1 => do
    match (← get).rest with
    | [] => return []
    | ['\\'] =>
      drop 1
      return []
    | '\\' :: c :: rest =>
      let (c, after) := (escaped? (c :: rest)).getD (c, rest)
      modify fun s => { s with rest := after }
      return c :: (← textLines bound)
    | '\n' :: _ =>
      drop 1
      return []
    | c :: _ =>
      drop 1
      return c :: (← textLines bound)

/-- Read the text of a command, with its line end. Its letter has been taken. Nothing after a backslash is no
text at all. -/
def textOf : Reading (List Char) := do
  let _ ← takeWhile isBlank
  match (← get).rest with
  | [] => fail "expected \\ after \x60a', \x60c' or \x60i'"
  | '\\' :: rest =>
    let after := rest.dropWhile isBlank
    match after with
    | [] =>
      modify fun c => { c with rest := [] }
      return []
    | '\n' :: text => modify fun c => { c with rest := text }
    | _ => modify fun c => { c with rest := rest }
    return (← textLines (← bound)) ++ ['\n']
  | _ => return (← textLines (← bound)) ++ ['\n']

/-- The letters of commands that are alone. -/
def plainLetters : List Char := ['=', 'd', 'D', 'g', 'G', 'h', 'H', 'l', 'n', 'N', 'p', 'P', 'x', 'z', 'F']

/-- Read a command after the lines it is for. The flag says that there are such lines. -/
def command (range : LineRange) (c : Char) : Reading EditCommand := do
  let isSpan := match range with
    | .span _ _ => true
    | .fromStart _ => true
    | _ => false
  let hasLines := match range with
    | .all => false
    | _ => true
  if c = 's' then substitution
  else if c = 'y' then transliteration
  else if c = 'a' || c = 'i' || c = 'c' then return .text c (← textOf)
  else if c = ':' then
    if hasLines then fail ": doesn't want any addresses"
    else
      let _ ← takeWhile isBlank
      let name ← takeWhile fun c => !isSpace c && c ≠ ';'
      if name.isEmpty then fail "\":\" lacks a label" else return .label name
  else if c = 'b' || c = 't' || c = 'T' then
    let _ ← takeWhile isBlank
    let name ← takeWhile fun c => !isSpace c && c ≠ ';' && c ≠ '\x7d'
    endOfCommand
    return .jump c name
  else if c = 'r' || c = 'w' || c = 'R' || c = 'W' then
    let _ ← takeWhile isBlank
    let path ← takeWhile (· ≠ '\n')
    if path.isEmpty then fail "missing filename in r/R/w/W commands" else return .file c path
  else if c = 'q' || c = 'Q' then
    if isSpan then fail "command only uses one address"
    else
      let _ ← takeWhile isBlank
      let n ← number
      endOfCommand
      return .quit (c == 'q') n
  else if plainLetters.contains c then
    endOfCommand
    return .letter c
  else fail ("unknown command: \x60" ++ String.singleton c ++ "'")

/-- Read commands up to the end of the text, or of a block if the flag says so. The lists come back with
the blocks in them. -/
def commands (inBlock : Bool) : Nat → Reading (List EditStep)
  | 0 => return []
  | fuel + 1 => do
    let _ ← takeWhile fun c => isSpace c || c == ';'
    match ← peek? with
    | none => if inBlock then throw (0, "unmatched \x60\x7b'") else return []
    | some '#' =>
      let _ ← takeWhile (· ≠ '\n')
      commands inBlock fuel
    | some '\x7d' =>
      drop 1
      if inBlock then
        endOfCommand
        return []
      else fail "unexpected \x60\x7d'"
    | some _ =>
      let range ← lineRange
      let _ ← takeWhile isBlank
      let signs ← takeWhile fun c => c == '!' || isBlank c
      let inverted := signs.contains '!'
      match ← peek? with
      | none => fail "missing command"
      | some c =>
        drop 1
        if c = '\x7b' then
          let inside ← commands true fuel
          let after ← commands inBlock fuel
          return ⟨range, inverted, .block inside.length⟩ :: inside ++ after
        else
          match c, range with
          | '\x7d', .one _ => fail "\x7d doesn't want any addresses"
          | '#', .all => return ← commands inBlock fuel
          | '#', _ => fail "comments don't accept any addresses"
          | c, range =>
            let command ← command range c
            return ⟨range, inverted, command⟩ :: (← commands inBlock fuel)

def read (extended : Bool) (text : List Char) : Except Fault (List EditStep) :=
  (commands false (2 * text.length + 8)).run' ⟨text, text.length, extended⟩

/-- How many commands a script has, or where it is wrong, for the examples. -/
private def outline (text : String) : Nat × String :=
  match read false text.toList with
  | .ok steps => (steps.length, "")
  | .error fault => fault

example : outline "2,4\x7b/x/d;s,a,b,g\x7d;p" = (4, "") := by decide +kernel
example : outline "s/a/b/k" = (7, "unknown option to \x60s'") := by decide +kernel
example : outline "s/[/]/b/" = (1, "") := by decide +kernel

end EditScript

end Tool

end BuildPlan
