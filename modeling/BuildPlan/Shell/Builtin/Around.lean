import BuildPlan.Shell.Builtin.Basic
import BuildPlan.Shell.Condition
import BuildPlan.Shell.Printing
import BuildPlan.Shell.Programs

/-!
# Builtins for what is around a shell

`cd`, `pwd`, `umask`, `ulimit`, `times`, `hash`, `type`, `command -v`, `echo`, `printf`, `test` and `[`.
-/

namespace BuildPlan

namespace Shell

open Step (session modifySession setStatus)

namespace Builtin

/-! ### The working directory -/

def locationText (loc : Location) : List Char :=
  '/' :: ['/'].intercalate (loc.reverse.map Letters.ofText)

/-- Go to a directory. What comes back says whether it can be gone to. -/
def enter (path : List Char) : Step Bool := do
  match ← Step.resolve path with
  | .error _ => return false
  | .ok loc =>
    if (← Step.world).tree.at? loc = some .directory then
      let before := locationText (← session).directory
      modifySession fun s => { s with directory := loc }
      Expansion.assign "OLDPWD".toList before
      Expansion.assign "PWD".toList (locationText loc)
      return true
    else return false

/-- A path that says by itself where it starts. -/
def isAnchored (path : List Char) : Bool :=
  match path.splitOn '/' with
  | [] => false
  | first :: rest => (first.isEmpty && !rest.isEmpty) || first == ['.'] || first == ['.', '.']

/-- Go to a directory below one of the directories of a list. What comes back says whether there is
one, and whether it is not the plain path. -/
def enterBelow (path : List Char) : List (List Char) → Step (Option Bool)
  | [] => return none
  | directory :: rest => do
    if ← enter (Programs.inside directory path) then return some !directory.isEmpty
    else enterBelow path rest

/-- Change the working directory. -/
def cd (arguments : List (List Char)) : Step Unit := do
  let (_, words) ← optionsOf "LP" arguments
  let s ← session
  let variable_ (name : String) : List Char := (s.boundValue? name.toList).getD []
  let (path, shows) := match words with
    | [] => (variable_ "HOME", false)
    | ['-'] :: _ => (variable_ "OLDPWD", true)
    | w :: _ => (w, false)
  let path := if path.isEmpty then ['.'] else path
  let done ←
    if isAnchored path then do
      if ← enter path then pure (some false) else pure none
    else enterBelow path ((variable_ "CDPATH").splitOn ':')
  match done with
  | none => Step.fail ("can't cd to ".toList ++ path)
  | some elsewhere =>
    setStatus 0
    if shows || elsewhere then emitLines [locationText (← session).directory]

/-- Print the working directory. -/
def pwd (arguments : List (List Char)) : Step Unit := do
  let _ ← optionsOf "LP" arguments
  setStatus 0
  emitLines [locationText (← session).directory]

/-! ### Permission bits -/

/-- The bits that letters grant, in the place of others. -/
def grantedBits (letters : List Char) : Nat :=
  (if letters.contains 'r' then 4 else 0) ||| (if letters.contains 'w' then 2 else 0) |||
    (if letters.contains 'x' then 1 else 0)

/-- The three groups of bits that letters name, as a factor. -/
def groupsNamed (letters : List Char) : Nat :=
  let all := letters.isEmpty || letters.contains 'a'
  (if all || letters.contains 'u' then 0o100 else 0) |||
    (if all || letters.contains 'g' then 0o10 else 0) ||| (if all || letters.contains 'o' then 1 else 0)

/-- Bits after a change such as `g-w`. Nothing comes back for a text that is none. -/
def changedBits (bits : Nat) (text : List Char) : Option Nat :=
  let who := text.takeWhile fun c => ['u', 'g', 'o', 'a'].contains c
  match text.drop who.length with
  | sign :: what =>
    if !(what.all fun c => ['r', 'w', 'x', 'X', 's', 't'].contains c) then none
    else
      let groups := groupsNamed who
      let mine := grantedBits what * groups
      match sign with
      | '+' => some (bits ||| mine)
      | '-' => some (bits &&& (0o777 ^^^ mine))
      | '=' => some ((bits &&& (0o777 ^^^ (7 * groups))) ||| mine)
      | _ => none
  | [] => none

def maskWords (mask : Nat) : List Char :=
  let group (letter : Char) (shift : Nat) : List Char :=
    let bits := ((0o777 ^^^ mask) >>> shift) % 8
    [letter, '='] ++ (if bits &&& 4 ≠ 0 then ['r'] else []) ++
      (if bits &&& 2 ≠ 0 then ['w'] else []) ++ (if bits &&& 1 ≠ 0 then ['x'] else [])
  [','].intercalate [group 'u' 6, group 'g' 3, group 'o' 0]

/-- Set the bits that new files do not have, or print them. -/
def umask (arguments : List (List Char)) : Step Unit := do
  let (options, words) ← optionsOf "S" arguments
  setStatus 0
  match words with
  | [] =>
    let mask := (← session).mask
    let digits := Nat.toDigits 8 mask
    emitLines [if options.isEmpty then List.replicate (4 - digits.length) '0' ++ digits
      else maskWords mask]
  | w :: _ =>
    if w.head?.any Char.isDigit then
      if w.all (Decimal.isDigitIn 8) && w.length < 10 then
        modifySession fun s => { s with mask := Decimal.valueIn 8 w % 0o1000 }
      else Step.fail ("Illegal number: ".toList ++ w)
    else
      match (w.splitOn ',').foldlM changedBits (0o777 ^^^ (← session).mask) with
      | some bits => modifySession fun s => { s with mask := 0o777 ^^^ bits }
      | none => Step.fail ("Illegal mode: ".toList ++ w)

/-- Set limits, which has no effect, or print them. -/
def ulimit (arguments : List (List Char)) : Step Unit := do
  let (_, words) ← optionsOf "HSatfdscmlpnvwr" arguments
  setStatus 0
  match words with
  | [] => emitLines ["unlimited".toList]
  | w :: _ =>
    if w ≠ "unlimited".toList && !w.all Char.isDigit then Step.fail "bad number".toList

/-- Print how long the shell has been busy. -/
def times : Step Unit := do
  setStatus 0
  let line := "0m0.000000s 0m0.000000s".toList
  emitLines [line, line]

/-! ### Names of commands -/

/-- The builtins that are part of every shell in a stricter sense: an error in one of them ends the
shell, and assignments before them stay. -/
def isSpecial (name : List Char) : Bool :=
  Grammar.specialBuiltins.contains (String.ofList name) || name = "local".toList

def ordinary : List String :=
  ["alias", "bg", "cd", "chdir", "command", "echo", "false", "fg", "getopts", "hash", "jobs", "kill",
    "printf", "pwd", "read", "test", "[", "true", "type", "ulimit", "umask", "unalias", "wait"]

def isBuiltin (name : List Char) : Bool := isSpecial name || ordinary.contains (String.ofList name)

/-- What a name stands for. -/
inductive Meaning where
  /-- A word of the grammar. -/
  | reserved
  | alias (value : List Char)
  | function
  | builtin (isSpecial : Bool)
  | program (path : List Char)
  | nothing

/-- Find out what a name stands for. -/
def meaning (name : List Char) : Step Meaning := do
  let s ← session
  if Token.reserved.contains (String.ofList name) then return .reserved
  else
    match s.aliases.lookup name with
    | some value => return .alias value
    | none =>
      if isSpecial name then return .builtin true
      else if (s.functions.lookup name).isSome then return .function
      else if isBuiltin name then return .builtin false
      else if name.contains '/' then
        return if (← Step.entryAt? name).isSome then .program name else .nothing
      else
        match ← Programs.find name with
        | .path path => return .program path
        | .nowhere _ => return .nothing

/-- Say what a name stands for. -/
def describe (name : List Char) : Step Unit := do
  let say (text : List Char) : Step Unit := emitLines [name ++ text]
  match ← meaning name with
  | .reserved => say " is a shell keyword".toList
  | .alias value => say (" is an alias for ".toList ++ value)
  | .function => say " is a shell function".toList
  | .builtin true => say " is a special shell builtin".toList
  | .builtin false => say " is a shell builtin".toList
  | .program path => say (" is ".toList ++ path)
  | .nothing =>
    say ": not found".toList
    setStatus 127

/-- Say what names stand for. -/
def type (arguments : List (List Char)) : Step Unit := do
  setStatus 0
  arguments.forM describe

/-- Print what a name stands for, as a command. -/
def look (name : List Char) : Step Unit := do
  match ← meaning name with
  | .nothing => setStatus 127
  | .program path => emitLines [path]
  | .alias value => emitLines ["alias ".toList ++ name ++ ['='] ++ inQuotes value]
  | _ => emitLines [name]

/-- Look programs up. -/
def hash (arguments : List (List Char)) : Step Unit := do
  let (_, words) ← optionsOf "rv" arguments
  setStatus 0
  words.forM fun name => do
    match ← meaning name with
    | .nothing =>
      Step.complain (name ++ ": not found".toList)
      setStatus 1
    | _ => pure ()

/-! ### Printing and testing -/

def echo (arguments : List (List Char)) : Step Unit := do
  setStatus 0
  emit (Printing.echo arguments)

/-- Print a format filled in. -/
def printf (arguments : List (List Char)) : Step Unit := do
  let (_, words) ← optionsOf "" arguments
  match words with
  | [] => Step.fail "usage: printf format [arg ...]".toList
  | format :: rest =>
    let f := Printing.printf format rest
    setStatus (if f.complaints.isEmpty then 0 else 1)
    f.complaints.forM Step.complain
    emit f.printed.reverse
    if f.isBad then
      setStatus 2
      throw .failed

/-- What can be asked about files. -/
def filesAround : Step Condition.Files := do
  let w ← Step.world
  let s ← session
  return ⟨fun path => (w.resolve s.directory path).toOption, w.tree.at?⟩

def test (words : List (List Char)) : Step Unit := do
  match Condition.holds (← filesAround) words with
  | .ok answer => setStatus (if answer then 0 else 1)
  | .error why => Step.fail why

/-- Decide a condition in brackets. -/
def bracket (words : List (List Char)) : Step Unit :=
  if words.getLast? = some [']'] then test words.dropLast else Step.fail "missing ]".toList

example : changedBits 0o755 "g-w,".toList = none ∧ changedBits 0o775 "g-w".toList = some 0o755 := by decide
example : maskWords 0o022 = "u=rwx,g=rx,o=rx".toList := by decide

end Builtin

end Shell

end BuildPlan
