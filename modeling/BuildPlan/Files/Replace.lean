import BuildPlan.Files.Staging

/-!
# Replacing a file

A file is written to a temporary file beside it, which is then moved onto it. So whoever reads the
file sees what was there before or all of what is there now.

* `FileTree.makeDirectories` makes the directories on the way that are missing.
* `FileTree.destination` finds the place that a file can be moved to.
* `FileTree.rename` moves a file.
* `FileTree.replaceFile` is the whole: directories are made, the temporary file is staged, and it is
  moved.

If the move fails, the temporary file is taken away again; what remains is the directories made before.
When a file stands in the way of a directory, the wording depends on where: at the end of the way, or
behind a directory just made, the name is taken; before that, the file is no directory to go on from.
-/

namespace BuildPlan

namespace FileTree

/-- Make the directories along components, from a location on. What comes back is the tree with
the directories made and the location reached. The flag says that a directory has been made. -/
def makeDirectories (t : FileTree) (loc : Location) (fresh : Bool) :
    List Component → FileTree × Except Obstacle Location
  | [] => (t, .ok loc)
  | .root :: rest => t.makeDirectories [] fresh rest
  | .current :: rest => t.makeDirectories loc fresh rest
  | .parent :: rest => t.makeDirectories loc.tail fresh rest
  | .name s :: rest =>
    if nameLimit < Utf8.size s.toList then (t, .error .nameTooLong)
    else
      match t.at? (s :: loc) with
      | some .directory => t.makeDirectories (s :: loc) fresh rest
      | some (.file _ _) =>
        (t, .error (if rest.isEmpty || fresh then .occupied else .notDirectory))
      | none => (t.put (s :: loc) .directory).makeDirectories (s :: loc) true rest

/-- The pieces of a path without the empty ones at its end. -/
def withoutTrailingSlash (pieces : List (List Char)) : List (List Char) :=
  (pieces.reverse.dropWhile (·.isEmpty)).reverse

/-- The location that a file can be moved to under the text of a path. -/
def destination (t : FileTree) (p : Path) : Except Obstacle Location :=
  if holdsNul p then .error .invalid
  else if p.text.isEmpty then .error .missing
  else if isTooLong p.text.toList then .error .nameTooLong
  else
    let pieces := withoutTrailingSlash p.pieces
    match pieces.getLast? with
    | none => .error .busy
    | some last =>
      match t.followAll (t.origin p) (pieces.dropLast ++ [[]]) with
      | .error obstacle => .error obstacle
      | .ok loc =>
        if last = ['.'] ∨ last = ['.', '.'] then .error .busy
        else if nameLimit < Utf8.size last then .error .nameTooLong
        else if p.pieces.getLast? = some [] then .error .notDirectory
        else if t.at? (String.ofList last :: loc) = some .directory then .error .isDirectory
        else .ok (String.ofList last :: loc)

def componentsHoldNul (cs : List Component) : Bool :=
  cs.any fun
    | .name s => s.toList.contains '\x00'
    | _ => false

/-- Move the file at a location to another location, in place of what was there. -/
def rename (t : FileTree) (source dest : Location) : FileTree :=
  match t.at? source with
  | none => t
  | some e => (t.unlink source).put dest e

/-- The directory that holds a path, as far as the text of the path spells it, or else a dot. -/
def heldIn (p : Path) : Path :=
  if p.directoryText.isEmpty then ⟨"."⟩ else ⟨String.ofList p.directoryText⟩

/-- Replace the file at a path. What comes back is the tree afterwards and the obstacle, if any. -/
def replaceFile (t : FileTree) (w : Stager) (p : Path) (content : List UInt8) :
    FileTree × Option Obstacle :=
  if componentsHoldNul p.directory then (t, some .nul)
  else if isTooLong p.directoryText then (t, some .nameTooLong)
  else
    match t.makeDirectories t.home false p.directory with
    | (made, .error obstacle) => (made, some obstacle)
    | (made, .ok dir) =>
      match made.stage w (heldIn p) dir content with
      | (after, .error obstacle) => (after, some obstacle)
      | (staged, .ok source) =>
        match staged.destination p with
        | .error obstacle => (staged.unlink source, some obstacle)
        | .ok dest => (staged.rename source dest, none)

/-- A small tree, for the examples: a directory `d` with a file `f`. -/
private def sample : FileTree where
  entries := [(["d", "w"], .directory), (["f", "d", "w"], .file [] 0o600), (["w"], .directory)]
  home := ["w"]

example : (sample.replaceFile .usual ⟨"d/f"⟩ [120]).1.find? ⟨"d//f"⟩ = some (.file [120] 0o644) := by decide
example : (sample.replaceFile .usual ⟨"d/f/x"⟩ []).2 = some .occupied := by decide
example : (sample.replaceFile .usual ⟨"d/f/x/y"⟩ []).2 = some .notDirectory := by decide
example : (sample.replaceFile .usual ⟨"n/../d/f/x/y"⟩ []).2 = some .occupied := by decide
example : (sample.replaceFile .usual ⟨"d"⟩ []).2 = some .isDirectory := by decide
example : (sample.replaceFile .usual ⟨"./"⟩ []).2 = some .busy := by decide
example : (sample.replaceFile .usual ⟨"n/"⟩ []).2 = some .notDirectory := by decide

end FileTree

end BuildPlan
