import BuildPlan.Files.Layout
import BuildPlan.Program

/-!
# The executable

What the program needs of the world is read before it starts: its words, the search path, and the files
at the paths it may ask for. Then it runs on these, and what it changed is written. Permission bits
cannot be asked for, so a file that starts as a script does is taken as one that may be run.
-/

namespace BuildPlan

/-- The location of an absolute path without `.` and `..`. -/
def locationOf (p : Path) : Location :=
  p.components.foldl
    (fun loc c => match c with
      | .root => []
      | .current => loc
      | .parent => loc.tail
      | .name s => s :: loc) []

/-- The permission bits that a file is taken to have. -/
def presumedMode (content : List UInt8) : Nat :=
  if (FirstLine.ofText? (Letters.ofBytes (content.take (FirstLine.window + 2)))).isSome then 0o755
  else 0o644

/-- What is at a location in the world. -/
def lookAt (loc : Location) : IO (Option Entry) := do
  let name := FileTree.textOf loc
  let here ← IO.currentDir
  try
    match (← (here / name).metadata).type with
    | .dir => return some .directory
    | .file =>
      let content := (← IO.FS.readBinFile name).toList
      return some (.file content (presumedMode content))
    | _ => return none
  catch _ => return none

/-- The paths that a run may ask for. -/
def wanted (s : Start) : List Path :=
  let helpers := (SearchPath.ofEnvironment s.path (some s.workingDirectory)).directories.flatMap
    fun d => Toolchain.candidates.map fun name => d.join ⟨name⟩
  let output := match CommandLine.read s.words with
    | .ok c => [c.output]
    | .error _ => []
  (helpers ++ Manifest.neatc.inputs ++ output).map s.workingDirectory.join

/-- The locations of some paths and of the directories above them. -/
def locations (home : Location) (ps : List Path) : List Location :=
  ((home :: ps.map locationOf).flatMap FileTree.upward).eraseDups

/-- What is at some locations in the world. -/
def snapshot (home : Location) (locs : List Location) : IO FileTree := do
  let mut tree : FileTree := { home := home }
  for loc in locs do
    if let some e ← lookAt loc then tree := tree.put loc e
  return tree

/-- Write the files that are not what they were, each by way of a temporary file beside it, and take away
those that are gone. -/
def store (before after : FileTree) : IO Unit := do
  for loc in ((before.entries ++ after.entries).map Prod.fst).eraseDups do
    if before.at? loc = after.at? loc then continue
    match after.at? loc with
    | some (.file content _) =>
      IO.FS.createDirAll (FileTree.textOf loc.tail)
      let temporary := FileTree.textOf (".configure.ninja.tmp" :: loc.tail)
      IO.FS.writeBinFile temporary ⟨content.toArray⟩
      IO.FS.rename temporary (FileTree.textOf loc)
    | some .directory => IO.FS.createDirAll (FileTree.textOf loc)
    | none => if let some (.file _ _) := before.at? loc then IO.FS.removeFile (FileTree.textOf loc)

/-- Show an event on standard error. -/
def tell (e : Event) : IO Unit := IO.eprintln (e.level.name ++ " " ++ e.message)

end BuildPlan

open BuildPlan in
/-- Run the program in the world. -/
def main (arguments : List String) : IO UInt32 := do
  let here : Path := ⟨(← IO.currentDir).toString⟩
  let path ← IO.getEnv "PATH"
  let start : Start :=
    { words := arguments.map Word.ofText
      path := path.map Utf8.encode
      workingDirectory := here
      executable := ⟨(← IO.appPath).toString⟩
      tree := {} }
  let home := locationOf here
  let locs := locations home (wanted start)
  let tree ← snapshot home locs
  let finish := Program.start { start with tree := tree } (Launch.responder start.path) .usual
  store tree finish.tree
  finish.events.forM tell
  IO.eprint finish.stderr
  try
    IO.print finish.stdout
    return finish.status.toUInt32
  catch _ =>
    tell Program.unreportedEvent
    return 1
