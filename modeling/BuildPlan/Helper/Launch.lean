import BuildPlan.Helper.Command
import BuildPlan.Process.Execution
import BuildPlan.Text.Blank

/-!
# Launching helpers

A command is launched by executing the file that its program leads to. A program without a slash is
looked up on the search path of the process that launches it.

* `Launch.reply` is what comes of a command: standard output that is text if it succeeds; otherwise
  its status with its standard error, trimmed, and with replacement characters where it is not text.
* `Launch.responder` answers any command that way and announces each of them.

A helper is a program of its own and most often a script. The modules under `Process`, `Shell` and `Tool`
stand in for what executes it: the system, its shell and its core utilities. Only `Shell.Quote` belongs
to the program. No result is about the others, since what is proved of runs is proved for every
`Responder`; they let a run be followed on files that hold the helper itself.
-/

namespace BuildPlan

namespace Launch

/-- The wording for a word that no program can be given. -/
def nulFound : String := "nul byte found in provided data"

/-- What is taken of a program that has ended. -/
def taken (f : Execution.Finished) : Reply :=
  match f.ending with
  | .status 0 =>
    match Utf8.decode (Letters.toBytes f.stdout) with
    | some text => .ok text
    | none => .error .notText
  | ending =>
    let status := match ending with
      | .status n => some (Int.ofNat n)
      | .signal _ => none
    .error (.exit status (String.ofList (Text.trim (Letters.toText f.stderr).toList)))

/-- The environment of programs: their search path, if it is known. -/
def environment (path : Option (List UInt8)) : List (List Char × List Char) :=
  (path.map fun bytes => ("PATH".toList, Letters.ofBytes bytes)).toList

/-- The directories that programs are looked up in when the search path is not known. -/
def standardDirectories : List String := ["/bin", "/usr/bin"]

def directories (path : Option (List UInt8)) : List (List Char) :=
  match path with
  | none => standardDirectories.map String.toList
  | some bytes => (Letters.ofBytes bytes).splitOn ':'

def inside (directory : List Char) (program : String) : Path :=
  ⟨Letters.toText (if directory.isEmpty then [] else directory ++ ['/']) ++ program⟩

/-- Execute the first program that can be executed. What stands in the way of one that may not be run
counts more than that others are missing. -/
def tryEach (tree : FileTree) (around : List (List Char × List Char)) (words : List (List Char)) :
    Bool → List Path → Except Obstacle Execution.Finished
  | isDenied, [] => .error (if isDenied then .denied else .missing)
  | isDenied, p :: rest =>
    match Execution.run tree around (Letters.ofText p.text) words with
    | .ok f => .ok f
    | .error .denied => tryEach tree around words true rest
    | .error .missing => tryEach tree around words isDenied rest
    | .error .notDirectory => tryEach tree around words isDenied rest
    | .error .nameTooLong => tryEach tree around words isDenied rest
    | .error o => .error o

def execute (tree : FileTree) (path : Option (List UInt8)) (c : Command) :
    Except Obstacle Execution.Finished :=
  let around := environment path
  let words := c.words.map Letters.ofText
  let program := c.program.text
  if program.isEmpty then .error .missing
  else if program.toList.contains '/' then
    Execution.run tree around (Letters.ofText program) words
  else if FileTree.nameLimit < Utf8.size program.toList then .error .nameTooLong
  else tryEach tree around words false ((directories path).map fun d => inside d program)

/-- The files after a command, and what comes of it. -/
def reply (tree : FileTree) (path : Option (List UInt8)) (c : Command) : FileTree × Reply :=
  if c.words.any fun w => w.toList.contains '\x00' then (tree, .error (.launch nulFound))
  else
    match execute tree path c with
    | .error o => (tree, .error (.launch o.message))
    | .ok f => (f.tree, taken f)

/-- Commands are launched among the files, with a search path if one is known. -/
def responder (path : Option (List UInt8)) : Responder where
  answer tree _ c := reply tree path c
  announces := true

/-- The search path of a process that is given the usual one. -/
def usualPath : List UInt8 := Utf8.encode Shell.Startup.defaultPath

end Launch

end BuildPlan
