import BuildPlan.Shell.Builtin.Variables
import BuildPlan.Shell.Lines
import BuildPlan.Shell.Redirecting

/-!
# Starting a shell

A shell is started with words: its name, its options, and what it is to run. That is the word after the
options if there is a `-c` among them, otherwise the file that this word names, and standard input
without such a word.

* `Startup.session` is the session of a fresh shell.
* `Startup.run` runs a shell.
-/

namespace BuildPlan

namespace Shell

open Step (session modifySession setStatus)

namespace Startup

/-- The search path of a shell that is given none. -/
def defaultPath : String := "/usr/local/sbin:/usr/local/bin:/usr/sbin:/usr/bin:/sbin:/bin"

/-- The variables that a shell has by itself. -/
def ownVariables : List (String × String) :=
  [("IFS", " \t\n"), ("PATH", defaultPath), ("PS1", "$ "), ("PS2", "> "), ("PS4", "+ "), ("OPTIND", "1")]

/-- The variables that always start with a value of their own. -/
def fixedAtStart : List (String × String) := [("IFS", " \t\n"), ("OPTIND", "1")]

/-- Give a variable a value, and leave it as it is otherwise. -/
def withValue (s : Session) (name value : List Char) : Session :=
  s.bind name { (s.look? name).getD {} with value := some value }

/-- The session of a fresh shell in place of a process. -/
def fresh (old : Session) (name : List Char) : Session :=
  let bare : Session :=
    { name := name
      root := old.process
      process := old.process
      ancestors := old.ancestors
      descriptors := old.descriptors
      directory := old.directory
      mask := old.mask
      traps := old.traps.filter fun t => t.2.isEmpty }
  let own := ownVariables.foldl (fun s v => withValue s v.1.toList v.2.toList) bare
  let given := (old.environment.filter fun v => isName v.1).foldl
    (fun s v => s.bind v.1 { value := some v.2, isExported := true }) own
  let fixed := fixedAtStart.foldl (fun s v => withValue s v.1.toList v.2.toList) given
  let parent := withValue fixed "PPID".toList (Letters.ofNat (old.ancestors.headD 999))
  parent.bind "PWD".toList
    { value := some ('/' :: ['/'].intercalate (old.directory.reverse.map Letters.ofText))
      isExported := true }

variable (p : Powers)

/-- Run the file at a path as a script. -/
def runFile (path : List Char) (arguments : List (List Char)) : Step Unit := do
  let s ← session
  match (← Step.world).open? s.directory s.mask path { reads := true } with
  | .error o =>
    Step.fail ("cannot open ".toList ++ path ++ ": ".toList ++ (Redirecting.why false o).toList)
  | .ok (w, channel) =>
    modifySession fun s => { s with name := path, arguments := arguments }
    Lines.run p {} (Lines.cleaned (w.available channel)) true

/-- Run what the words of a shell say. -/
def follow (words : List (List Char)) : Step Unit := do
  let (rest, o) ← Builtin.readOptions true words
  if o.hasCommand then
    match rest with
    | [] => Step.fail "-c requires an argument".toList
    | text :: rest =>
      modifySession fun s =>
        { s with name := rest.headD s.name, arguments := rest.drop 1 }
      Lines.run p { isLast := !(← session).has 's' } text
  else
    match rest with
    | path :: arguments =>
      if (← session).has 's' then
        modifySession fun s => { s with arguments := rest }
        fromInput
      else runFile p path arguments
    | [] =>
      modifySession fun s => s.setOption 's' true
      fromInput
where
  /-- Run standard input as a script. -/
  fromInput : Step Unit := do
    Lines.run p {} (Lines.cleaned ((← Step.takeAll 0).getD [])) true

/-- Run a shell in place of the process under way. -/
def run (words : List (List Char)) : Step Unit := do
  modifySession fun s => fresh s (words.headD [])
  setStatus 0
  Lines.asShell p (follow p (words.drop 1))

end Startup

end Shell

end BuildPlan
