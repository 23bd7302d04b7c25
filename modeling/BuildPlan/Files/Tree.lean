import BuildPlan.Path.Basic
import BuildPlan.Text.Utf8

/-!
# File trees

A file tree says which directories and regular files there are. There are no links, so a place in
the tree is named by one list of names.

* `Location` is such a list, innermost name first. The empty list is the top directory.
* `FileTree.at?` looks a location up; `FileTree.put` puts something there, `FileTree.remove` takes away
  what is there and below, and `FileTree.move` does both.
* `FileTree.resolve` follows the text of a path. Every piece of it, an empty one included, has to
  start in a directory; `..` goes up as the tree is, whatever the text before it says.
* `FileTree.isFile` and `FileTree.isExecutable` are the two questions asked of a path.
* `FileTree.changes` compares two trees below the working directory.

`Obstacle` lists the ways in which a path cannot be followed, written or run, with the system's wording.
Files hold bytes. Whether a file may be read, written or run is up to the bits of its owner.
-/

namespace BuildPlan

/-- Why a path cannot be followed, written or run. -/
inductive Obstacle where
  | missing
  /-- A file of no known format cannot be run. -/
  | badFormat
  /-- The permission bits forbid it. -/
  | denied
  /-- The last step of the path is no name. -/
  | busy
  /-- A file is where a directory should be made. -/
  | occupied
  /-- A file is where a directory should be. -/
  | notDirectory
  /-- A directory is where a file should be. -/
  | isDirectory
  /-- The path holds a NUL, found late. -/
  | invalid
  /-- A name is too long, or the path is. -/
  | nameTooLong
  | notEmpty
  | closed
  /-- One thing leads to the next for too long. -/
  | endless
  /-- The path holds a NUL, found early. -/
  | nul
  /-- Whatever else was reported, in these words. -/
  | reported (text : String)
deriving DecidableEq

namespace Obstacle

/-- The wording of an obstacle, without its number. -/
def wording : Obstacle → String
  | .missing => "No such file or directory"
  | .badFormat => "Exec format error"
  | .denied => "Permission denied"
  | .busy => "Device or resource busy"
  | .occupied => "File exists"
  | .notDirectory => "Not a directory"
  | .isDirectory => "Is a directory"
  | .invalid => "Invalid argument"
  | .nameTooLong => "File name too long"
  | .notEmpty => "Directory not empty"
  | .closed => "Bad file descriptor"
  | .endless => "Too many levels of symbolic links"
  | .nul => "file name contained an unexpected NUL byte"
  | .reported text => text

/-- The number that the system gives an obstacle, if it gives it one. -/
def number? : Obstacle → Option Nat
  | .missing => some 2
  | .badFormat => some 8
  | .denied => some 13
  | .busy => some 16
  | .occupied => some 17
  | .notDirectory => some 20
  | .isDirectory => some 21
  | .invalid => some 22
  | .nameTooLong => some 36
  | .notEmpty => some 39
  | .closed => some 9
  | .endless => some 40
  | .nul | .reported _ => none

/-- The wording of an obstacle with its number. -/
def message (o : Obstacle) : String :=
  match o.number? with
  | some n => o.wording ++ " (os error " ++ toString n ++ ")"
  | none => o.wording

example : missing.message = "No such file or directory (os error 2)" := by decide
example : nul.message = "file name contained an unexpected NUL byte" := by decide

end Obstacle

/-- A place in a tree: names from the innermost to the outermost. -/
abbrev Location := List String

/-- What can be at a place. -/
inductive Entry where
  | directory
  /-- A regular file with its bytes and its permission bits. -/
  | file (content : List UInt8) (mode : Nat)
deriving DecidableEq

namespace Entry

def isFile : Entry → Bool
  | .directory => false
  | .file _ _ => true

/-- Any of the three permission bits that let a file be run. -/
def runBits : Nat := 0o111

/-- The entry is a regular file that may be run. -/
def isExecutable : Entry → Bool
  | .directory => false
  | .file _ mode => mode &&& runBits != 0

/-- The permission bit that lets the owner read a file. -/
def readBit : Nat := 0o400

/-- The permission bit that lets the owner write a file. -/
def writeBit : Nat := 0o200

/-- The permission bit that lets the owner run a file. -/
def runBit : Nat := 0o100

/-- The owner has a permission. Directories are open to their owner. -/
def grants : Entry → Nat → Bool
  | .directory, _ => true
  | .file _ mode, bit => mode &&& bit != 0

end Entry

/-- Directories and files, and the working directory. -/
structure FileTree where
  /-- What is where; the first entry for a location counts. -/
  entries : List (Location × Entry) := []
  /-- The working directory. -/
  home : Location := []
deriving DecidableEq

namespace FileTree

/-- What is at a location. The top directory is always there. -/
def at? (t : FileTree) (loc : Location) : Option Entry :=
  if loc = [] then some .directory else t.entries.lookup loc

/-- Put an entry at a location, in place of what was there. -/
def put (t : FileTree) (loc : Location) (e : Entry) : FileTree :=
  { t with entries := (loc, e) :: t.entries }

/-- What was put at a location is there. -/
theorem at?_put_self (t : FileTree) {loc : Location} (e : Entry) (h : loc ≠ []) :
    (t.put loc e).at? loc = some e := by
  simp [at?, put, h]

/-- Putting something at a location leaves the others alone. -/
theorem at?_put_of_ne (t : FileTree) {loc other : Location} (e : Entry) (h : other ≠ loc) :
    (t.put loc e).at? other = t.at? other := by
  have hne : (other == loc) = false := by simpa using h
  simp [at?, put, List.lookup_cons, hne]

/-- The location lies at or below another. -/
def isWithin (loc outer : Location) : Bool := outer.isSuffixOf loc

/-- Take away what is at a location and below it. -/
def remove (t : FileTree) (loc : Location) : FileTree :=
  { t with entries := t.entries.filter fun e => !isWithin e.1 loc }

/-- What is at a location and below it, put at another location. -/
def move (t : FileTree) (loc dest : Location) : FileTree :=
  let moved := (t.entries.filter fun e => isWithin e.1 loc).map fun (l, e) =>
    (l.take (l.length - loc.length) ++ dest, e)
  let cleared := (t.remove dest).remove loc
  { cleared with entries := moved ++ cleared.entries }

/-- The names in a directory, sorted. -/
def children (t : FileTree) (loc : Location) : List String :=
  ((t.entries.filterMap fun e =>
      match e.1 with
      | name :: outer => if outer = loc then some name else none
      | [] => none).eraseDups).mergeSort fun a b => decide (a ≤ b)

/-! ### Following paths -/

/-- The most bytes a name can have. -/
def nameLimit : Nat := 255

/-- The number of bytes from which on a text is too long for a path. -/
def pathLimit : Nat := 4096

def isTooLong (text : List Char) : Bool := decide (pathLimit ≤ Utf8.size text)

/-- Follow one piece of a path from a location. -/
def follow (t : FileTree) (loc : Location) (piece : List Char) : Except Obstacle Location :=
  match t.at? loc with
  | none => .error .missing
  | some (.file _ _) => .error .notDirectory
  | some .directory =>
    if piece = [] ∨ piece = ['.'] then .ok loc
    else if piece = ['.', '.'] then .ok loc.tail
    else if nameLimit < Utf8.size piece then .error .nameTooLong
    else if (t.at? (String.ofList piece :: loc)).isSome then .ok (String.ofList piece :: loc)
    else .error .missing

/-- Follow pieces one after the other. -/
def followAll (t : FileTree) (loc : Location) : List (List Char) → Except Obstacle Location
  | [] => .ok loc
  | piece :: rest =>
    match t.follow loc piece with
    | .error obstacle => .error obstacle
    | .ok next => t.followAll next rest

def origin (t : FileTree) (p : Path) : Location := if p.isAbsolute then [] else t.home

def holdsNul (p : Path) : Bool := p.text.toList.contains '\x00'

/-- The location that a path leads to. -/
def resolve (t : FileTree) (p : Path) : Except Obstacle Location :=
  if holdsNul p then .error .nul
  else if p.text.isEmpty then .error .missing
  else if isTooLong p.text.toList then .error .nameTooLong
  else t.followAll (t.origin p) p.pieces

/-- What a path leads to. -/
def find? (t : FileTree) (p : Path) : Option Entry :=
  match t.resolve p with
  | .error _ => none
  | .ok loc => t.at? loc

/-- The path leads to a regular file. -/
def isFile (t : FileTree) (p : Path) : Bool := (t.find? p).any Entry.isFile

/-- The path leads to a regular file that may be run. -/
def isExecutable (t : FileTree) (p : Path) : Bool := (t.find? p).any Entry.isExecutable

/-! ### Comparing trees -/

/-- A file that is new or not what it was. -/
structure Change where
  /-- The path from the working directory. -/
  path : String
  /-- The permission bits now. -/
  mode : Nat
  content : List UInt8
deriving DecidableEq

/-- The path from the working directory to a location below it. -/
def fromHome? (t : FileTree) (loc : Location) : Option String :=
  (t.home.reverse.isPrefixOf? loc.reverse).map ("/".intercalate ·)

/-- The change at a location, if there is a file there that is new or not what it was. -/
def change? (before after : FileTree) (loc : Location) : Option Change :=
  if before.at? loc = after.at? loc then none
  else
    match after.at? loc, after.fromHome? loc with
    | some (.file content mode), some path => some ⟨path, mode, content⟩
    | _, _ => none

/-- The files below the working directory that are new or not what they were, by path. -/
def changes (before after : FileTree) : List Change :=
  ((after.entries.map Prod.fst).eraseDups.filterMap (change? before after)).mergeSort
    fun a b => decide (a.path ≤ b.path)

end FileTree

end BuildPlan
