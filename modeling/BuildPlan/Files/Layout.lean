import BuildPlan.Files.Replace

/-!
# Laying out files

A file tree is laid out from a list of files and directories given by paths. The directories on the way
are made as needed.

* `FileTree.place` puts one entry at a path; `FileTree.layOut` puts several into an empty working
  directory.
-/

namespace BuildPlan

namespace FileTree

/-- Put an entry at a path, with the directories on the way. -/
def place (t : FileTree) (p : Path) (e : Entry) : FileTree :=
  match t.makeDirectories t.home false p.directory with
  | (made, .error _) => made
  | (made, .ok loc) =>
    match e, p.components.getLast? with
    | .directory, _ => (made.makeDirectories made.home false p.components).1
    | e, some (.name s) => made.put (s :: loc) e
    | _, _ => made

/-- A location and all those above it, but for the top. -/
def upward : Location → List Location
  | [] => []
  | name :: outer => (name :: outer) :: upward outer

/-- The tree that has only a working directory, and the directories above it. -/
def bare (home : Location) : FileTree where
  entries := (upward home).map (·, .directory)
  home := home

/-- A working directory with entries. -/
def layOut (home : Location) (entries : List (Path × Entry)) : FileTree :=
  entries.foldl (fun t (p, e) => t.place p e) (bare home)

example : (layOut ["w"] [(⟨"a/b"⟩, .file [120] 0o644)]).find? ⟨"/w/a/../a/b"⟩ =
    some (.file [120] 0o644) := by decide
example : (changes (layOut ["w"] []) (layOut ["w"] [(⟨"a/b"⟩, .file [120] 0o644)])).map Change.path =
    ["a/b"] := by decide +kernel

end FileTree

end BuildPlan
