import BuildPlan.Files.Replace
import BuildPlan.Shell.Decimal
import BuildPlan.Shell.Letters

/-!
# What processes share

Processes share the files, the channels they have open, and the signals on their way.

* A `Channel` is a file, a pipe or a device that has been opened. Where it is read or written next is
  part of it, so that processes take turns on one channel.
* `World.read` and `World.write` read and write a channel.
* `World.place` finds where the text of a path leads, or where it would lead if a file were made there.
* `World.open` opens a path.

A process runs to its end before another one reads what it wrote. So a pipe that takes too much kills
the process that writes to it, as it would if its reader had left.
-/

namespace BuildPlan

inductive Target where
  /-- To nothing: it takes all and gives nothing. -/
  | nothing
  | zeros
  /-- To a device that takes nothing. -/
  | full
  | pipe (number : Nat)
  | file (place : Location)
  | directory (place : Location)
deriving DecidableEq

structure Channel where
  target : Target
  reads : Bool := true
  writes : Bool := true
  /-- All that is written goes to the end of the file. -/
  appends : Bool := false
  position : Nat := 0

structure Pipe where
  content : Array Char := #[]
  /-- How much of it has been read. -/
  taken : Nat := 0
  /-- How much it takes at most. -/
  limit : Option Nat := none

structure World where
  tree : FileTree
  channels : Array Channel := #[]
  pipes : Array Pipe := #[]
  lastProcess : Nat := 1000
  /-- The signals on their way, each with the process it goes to. -/
  signals : List (Nat × Nat) := []
  time : Nat := 0

/-- Why nothing could be written to a channel. -/
inductive WriteFault where
  | noSpace
  /-- The channel is not open for writing. -/
  | badDescriptor
  /-- Nobody reads the pipe. -/
  | unread
deriving DecidableEq

def WriteFault.wording : WriteFault → String
  | .noSpace => "No space left on device"
  | .badDescriptor => "Bad file descriptor"
  | .unread => "Broken pipe"

namespace World

def addChannel (w : World) (c : Channel) : World × Nat :=
  ({ w with channels := w.channels.push c }, w.channels.size)

/-- Add a pipe: its end for reading and its end for writing. -/
def addPipe (w : World) (limit : Option Nat := none) (content : List Char := []) :
    World × Nat × Nat :=
  let target := Target.pipe w.pipes.size
  let w := { w with pipes := w.pipes.push { content := content.toArray, limit := limit } }
  let (w, front) := w.addChannel { target := target, writes := false }
  let (w, back) := w.addChannel { target := target, reads := false }
  (w, front, back)

/-- How much a pipe between two processes takes. -/
def pipeLimit : Nat := 1048576

/-- What the endless device gives at once. -/
def zerosAtOnce : Nat := 1048576

/-! ### Reading -/

/-- What can be read from a channel. -/
def available (w : World) (channel : Nat) : List Char :=
  match w.channels[channel]? with
  | none => []
  | some c =>
    match c.target with
    | .pipe n => ((w.pipes[n]?).map fun p => (p.content.extract p.taken p.content.size).toList).getD []
    | .file place =>
      match w.tree.at? place with
      | some (.file content _) => (Letters.ofBytes content).drop c.position
      | _ => []
    | .zeros => List.replicate zerosAtOnce '\x00'
    | _ => []

/-- Go on by so many characters in a channel. -/
def advance (w : World) (channel n : Nat) : World :=
  match w.channels[channel]? with
  | none => w
  | some c =>
    match c.target with
    | .pipe number =>
      { w with pipes := w.pipes.modify number fun p => { p with taken := p.taken + n } }
    | .file _ =>
      { w with channels := w.channels.modify channel fun c => { c with position := c.position + n } }
    | _ => w

/-! ### Writing -/

/-- Bytes put into others at a position. A gap is filled with zeros. -/
def spliced (old : List UInt8) (position : Nat) (new : List UInt8) : List UInt8 :=
  old.take position ++ List.replicate (position - old.length) 0 ++ new ++
    old.drop (position + new.length)

def write (w : World) (channel : Nat) (text : List Char) : World × Option WriteFault :=
  match w.channels[channel]? with
  | none => (w, some .badDescriptor)
  | some c =>
    if !c.writes then (w, some .badDescriptor)
    else
      match c.target with
      | .full => (w, if text.isEmpty then none else some .noSpace)
      | .pipe n =>
        let w := { w with pipes := w.pipes.modify n fun p => { p with content := p.content ++ text } }
        let isOver := (w.pipes[n]?).any fun p => p.limit.any fun l => decide (l < p.content.size)
        (w, if isOver then some .unread else none)
      | .file place =>
        match w.tree.at? place with
        | some (.file content mode) =>
          let position := if c.appends then content.length else c.position
          let new := Letters.toBytes text
          let tree := w.tree.put place (.file (spliced content position new) mode)
          ({ w with
              tree := tree
              channels := w.channels.modify channel fun c =>
                { c with position := position + new.length } }, none)
        | _ => (w, none)
      | _ => (w, none)

/-! ### Paths -/

/-- The tree as a process in a directory sees it. -/
def treeFrom (w : World) (directory : Location) : FileTree := { w.tree with home := directory }

/-- Where the text of a path leads. -/
def resolve (w : World) (directory : Location) (path : List Char) : Except Obstacle Location :=
  (w.treeFrom directory).resolve ⟨Letters.toText path⟩

/-- What the text of a path leads to, if it leads anywhere. -/
def entryAt? (w : World) (directory : Location) (path : List Char) : Option Entry :=
  match w.resolve directory path with
  | .ok place => w.tree.at? place
  | .error _ => none

/-- Where the text of a path leads, or would lead if something were made there. -/
def place (w : World) (directory : Location) (path : List Char) : Except Obstacle Location :=
  let t := w.treeFrom directory
  let p : Path := ⟨Letters.toText path⟩
  match t.resolve p with
  | .ok loc => .ok loc
  | .error .missing =>
    if p.text.isEmpty then .error .missing
    else
      let pieces := FileTree.withoutTrailingSlash p.pieces
      match pieces.getLast? with
      | none => .error .missing
      | some last =>
        match t.followAll (t.origin p) (pieces.dropLast ++ [[]]) with
        | .error obstacle => .error obstacle
        | .ok outer =>
          if last = ['.'] ∨ last = ['.', '.'] then .error .missing
          else if FileTree.nameLimit < Utf8.size last then .error .nameTooLong
          else .ok (String.ofList last :: outer)
  | .error obstacle => .error obstacle

def device? : Location → Option Target
  | ["null", "dev"] => some .nothing
  | ["zero", "dev"] => some .zeros
  | ["full", "dev"] => some .full
  | _ => none

/-- The descriptor that the path of a device stands for. -/
def descriptor? (path : List Char) : Option Nat :=
  match String.ofList path with
  | "/dev/stdin" => some 0
  | "/dev/stdout" => some 1
  | "/dev/stderr" => some 2
  | _ => (Letters.after? "/dev/fd/".toList path).bind Shell.Decimal.digits?

/-- The directory of passing files. -/
def passing : Location := ["tmp"]

/-- What is at a location may be changed: it lies below the working directory of the first process, or
among passing files. -/
def isOwn (w : World) (loc : Location) : Bool :=
  FileTree.isWithin loc w.tree.home || FileTree.isWithin loc passing

/-- Things may be made in the directory of a location, and taken away from there. -/
def isOpenAround (w : World) (loc : Location) : Bool := w.isOwn loc.tail

/-- How a path is opened. -/
structure Access where
  reads : Bool := false
  writes : Bool := false
  /-- For writing at the end. -/
  appends : Bool := false
  /-- A file that is not there is made. -/
  creates : Bool := false
  /-- What the file holds is thrown away. -/
  empties : Bool := false
  /-- A file that is there is in the way. -/
  isNew : Bool := false

/-- Open a path. A file that is made has the permission bits that the mask leaves. -/
def open? (w : World) (directory : Location) (mask : Nat) (path : List Char) (a : Access) :
    Except Obstacle (World × Nat) := do
  let loc ← w.place directory path
  match device? loc with
  | some target => return w.addChannel { target := target, reads := a.reads, writes := a.writes }
  | none =>
    match w.tree.at? loc with
    | some .directory =>
      if a.writes then throw .isDirectory
      else return w.addChannel { target := .directory loc, writes := false }
    | some (.file content mode) =>
      if a.isNew then throw .occupied
      else if a.reads && mode &&& Entry.readBit == 0 then throw .denied
      else if a.writes && (mode &&& Entry.writeBit == 0 || !w.isOwn loc) then throw .denied
      else
        let tree := if a.empties && !content.isEmpty then w.tree.put loc (.file [] mode) else w.tree
        return { w with tree := tree }.addChannel
          { target := .file loc, reads := a.reads, writes := a.writes, appends := a.appends }
    | none =>
      if !a.creates then throw .missing
      else if path.getLast? = some '/' then throw .isDirectory
      else if !w.isOpenAround loc then throw .denied
      else
        let tree := w.tree.put loc (.file [] (0o666 &&& (0o777 ^^^ mask)))
        return { w with tree := tree }.addChannel
          { target := .file loc, reads := a.reads, writes := a.writes, appends := a.appends }

end World

end BuildPlan
