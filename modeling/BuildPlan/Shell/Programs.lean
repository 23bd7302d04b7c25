import BuildPlan.Shell.Lines

/-!
# Finding programs

* `Programs.find` looks a program up on the search path of a shell.
* `Programs.execute` runs a program in place of the process under way, whether it is given by a path or
  by name. A file of no known format that looks like text is run as a script.
-/

namespace BuildPlan

namespace Shell

open Step (session modifySession setStatus)

namespace Programs

/-- The path of a name in a directory. -/
def inside (directory name : List Char) : List Char :=
  if directory.isEmpty then name else directory ++ ['/'] ++ name

/-- A program found on the search path. -/
inductive Found where
  | path (p : List Char)
  | nowhere (why : Obstacle)

/-- Look a program up in directories. What has stood in the way so far comes first. -/
def findIn (name : List Char) : Obstacle → List (List Char) → Step Found
  | why, [] => return .nowhere why
  | why, directory :: rest => do
    let path := inside directory name
    match ← Step.entryAt? path with
    | some (.file content mode) =>
      if (Entry.file content mode).grants Entry.runBit then return .path path
      else findIn name .denied rest
    | some .directory => findIn name .denied rest
    | none => findIn name why rest

/-- Look a program up on the search path. -/
def find (name : List Char) : Step Found := do findIn name .missing (← session).searchPath

/-- How a shell says why a program cannot be run. -/
def why : Obstacle → String
  | .missing => "not found"
  | .notDirectory => "not found"
  | o => o.wording

/-- The status of a program that cannot be run. -/
def statusOf : Obstacle → Nat
  | .missing => 127
  | .notDirectory => 127
  | .nameTooLong => 127
  | _ => 126

/-- The path of the shell that runs scripts of no known format. -/
def standardShell : List Char := "/bin/sh".toList

/-- The bytes at the start of a program of the system. -/
def programMark : List UInt8 := [0x7F, 0x45, 0x4C, 0x46]

/-- The content is text as far as its first line goes. -/
def looksLikeText (content : List UInt8) : Bool :=
  !programMark.isPrefixOf content && !(content.takeWhile (· ≠ 10)).contains 0

variable (p : Powers)

/-- Run the program at a path. What comes back is why it could not be run. -/
def launch (path : List Char) (words : List (List Char)) : Step Obstacle := do
  match ← p.launch path words with
  | .badFormat =>
    let isText := match ← Step.entryAt? path with
      | some (.file content _) => looksLikeText content
      | _ => false
    if isText then p.launch standardShell (standardShell :: path :: words.drop 1)
    else return .badFormat
  | o => return o

/-- Run a program in place of the process under way. What comes back is why it could not be run. -/
def replace (name : List Char) (words : List (List Char)) : Step Obstacle := do
  modifySession Session.inGroups
  if name.contains '/' then launch p name words
  else
    match ← find name with
    | .path path => launch p path words
    | .nowhere why => return why

/-- Run a program in place of the shell under way. If it cannot be run, the shell says so and ends. -/
def execute (words : List (List Char)) : Step Unit := do
  let name := words.headD []
  let o ← replace p name words
  Step.complain (name ++ ": ".toList ++ (why o).toList)
  setStatus (statusOf o)
  throw .finished

end Programs

end Shell

end BuildPlan
