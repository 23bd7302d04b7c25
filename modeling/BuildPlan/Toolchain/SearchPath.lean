import BuildPlan.Files.Tree
import BuildPlan.Log
import BuildPlan.Text.Utf8

/-!
# The search path

The helper is looked for along a search path. It comes as bytes with colons between the entries.

* `SearchPath.entries` cuts the bytes at the colons. No bytes at all have no entries; otherwise an
  empty entry stands for the current directory.
* `SearchPath.ofBytes` turns the entries that are text into directories, relative ones seen from the
  working directory when that is known. An entry that is not text is skipped and logged with its
  position among all entries (`SearchPath.skippedEvents`).
* `SearchPath.find?` walks the directories in order and tries the candidates in order in each.
-/

namespace BuildPlan

/-- The directories to look in, in order. -/
structure SearchPath where
  directories : List Path := []
deriving DecidableEq

namespace SearchPath

/-- The byte between two entries. -/
def colon : UInt8 := 0x3A

/-- The entries of a raw search path. -/
def entries (raw : List UInt8) : List (List UInt8) := if raw = [] then [] else raw.splitOn colon

def directoryOf (workingDirectory : Option Path) (entry : String) : Path :=
  let directory : Path := if entry.isEmpty then ⟨"."⟩ else ⟨entry⟩
  workingDirectory.elim directory fun base => base.join directory

/-- The search path that raw bytes stand for. -/
def ofBytes (raw : List UInt8) (workingDirectory : Option Path) : SearchPath where
  directories := (entries raw).filterMap fun entry =>
    (Utf8.decode entry).map (directoryOf workingDirectory)

/-- The positions of the entries that are not text. -/
def skipped (raw : List UInt8) : List Nat :=
  (entries raw).zipIdx.filterMap fun (entry, position) =>
    if (Utf8.decode entry).isNone then some position else none

/-- The event about an entry that is not text. -/
def skippedEvent (position : Nat) : Event :=
  ⟨.debug, "skipping non UTF-8 search path entry #" ++ toString position⟩

/-- The events of reading a raw search path. -/
def skippedEvents (raw : List UInt8) : List Event := (skipped raw).map skippedEvent

/-- The search path of an environment, where it may be missing altogether. -/
def ofEnvironment (raw : Option (List UInt8)) (workingDirectory : Option Path) : SearchPath :=
  raw.elim {} fun bytes => ofBytes bytes workingDirectory

/-- The events of reading the search path of an environment. -/
def environmentEvents (raw : Option (List UInt8)) : List Event := raw.elim [] skippedEvents

/-- The first file that may be run among the candidates, directory by directory. -/
def find? (s : SearchPath) (tree : FileTree) (candidates : List String) : Option Path :=
  s.directories.findSome? fun directory =>
    (candidates.map fun name => directory.join ⟨name⟩).find? tree.isExecutable

example : ofBytes (Utf8.encode "a::/b:") (some ⟨"/w"⟩) =
    ⟨["/w/a", "/w/.", "/b", "/w/."].map Path.mk⟩ := by decide
example : ofBytes [0xFF, 0x3A, 0x78] none = ⟨[⟨"x"⟩]⟩ ∧ skipped [0xFF, 0x3A, 0x78] = [0] := by decide

end SearchPath

end BuildPlan
