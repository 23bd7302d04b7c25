import BuildPlan.Tool.Basic

/-!
# Tools that change files

`rm`, `rmdir`, `mkdir`, `touch`, `mv` and `cp`.

Each tool goes on with the other paths when something stands in the way at one of them, and ends with
status 1 then.
-/

namespace BuildPlan

open Shell (Step)

namespace Tool

/-! ### Paths -/

def withoutSlashes (path : List Char) : List Char := (path.reverse.dropWhile (· = '/')).reverse

def lastName (path : List Char) : List Char :=
  ((withoutSlashes path).reverse.takeWhile (· ≠ '/')).reverse

/-- The path of a name in a directory. -/
def below (directory name : List Char) : List Char :=
  if directory.getLast? = some '/' then directory ++ name else directory ++ '/' :: name

def endsInSlash (path : List Char) : Bool := path.getLast? == some '/'

/-- Where a path leads, and what is there. -/
def found (path : List Char) : Step (Except Obstacle (Location × Entry)) := do
  match ← Step.resolve path with
  | .error o => return .error o
  | .ok loc =>
    match (← Step.world).tree.at? loc with
    | some e => return .ok (loc, e)
    | none => return .error .missing

def isDirectory (path : List Char) : Step Bool := return (← Step.entryAt? path) = some .directory

/-- What is at a location may be taken away. -/
def mayRemove (loc : Location) : Step Bool := return (← Step.world).isOpenAround loc

/-- Complain about what cannot be done. -/
def failWith (name : List Char) (what : List Char) (why : String) : Step Unit := do
  warn name (what ++ ": ".toList ++ why.toList)
  setStatus 1

/-- Complain about what cannot be done to a path. -/
def cannot (name : List Char) (what : String) (path : List Char) (o : Obstacle) : Step Unit :=
  failWith name (what.toList ++ inQuotes path) o.wording

/-- Complain that operands are missing. -/
def needs {α : Type} (name : List Char) (what : String) : Step α := misused name what.toList

/-! ### Taking away -/

/-- The paths below a path in the order in which they are taken away, each with its place. -/
def pathsBelow (tree : FileTree) : Nat → List Char → Location → List (List Char × Location)
  | 0, _, _ => []
  | depth + 1, path, loc =>
    (tree.children loc).flatMap fun child =>
      let inner := below path (Letters.ofText child)
      pathsBelow tree depth inner (child :: loc) ++ [(inner, child :: loc)]

/-- How deep directories lie in each other at most. -/
def deepest (tree : FileTree) : Nat := tree.entries.foldl (fun n e => max n e.1.length) 0 + 1

/-- Say what has been taken away. -/
def tellRemoved (name path : List Char) (e : Entry) : Step Unit :=
  say name ((if e.isFile then "removed " else "removed directory ").toList ++ inQuotes path ++ ['\n'])

/-- Take away what a path leads to. -/
def removeOne (name : List Char) (a : Arguments) (path : List Char) : Step Unit := do
  let what := "cannot remove "
  match ← found path with
  | .error o =>
    if a.has 'f' && (o = .missing || o = .notDirectory) then return
    else cannot name what path o
  | .ok (loc, e) =>
    let tree := (← Step.world).tree
    let last := lastName path
    if e = .directory && !a.has 'r' then
      if !a.has 'd' then cannot name what path .isDirectory
      else if !(tree.children loc).isEmpty then cannot name what path .notEmpty
      else if !(← mayRemove loc) then cannot name what path .denied
      else
        Step.modifyTree fun t => t.remove loc
        if a.has 'v' then tellRemoved name path e
    else if last = ['.'] || last = ['.', '.'] then
      warn name ("refusing to remove '.' or '..' directory: skipping ".toList ++ inQuotes path)
      setStatus 1
    else if loc = [] then
      warn name "it is dangerous to operate recursively on '/'".toList
      warn name "use --no-preserve-root to override this failsafe".toList
      setStatus 1
    else if !(← mayRemove loc) then cannot name what path .denied
    else
      Step.modifyTree fun t => t.remove loc
      if a.has 'v' then
        (pathsBelow tree (deepest tree) path loc).forM fun (inner, l) =>
          tellRemoved name inner ((tree.at? l).getD .directory)
        tellRemoved name path e

/-- Take files away. -/
def rm : Tool := fun name arguments => do
  setStatus 0
  let a ← options name
    [⟨'f', "force", false⟩, ⟨'i', "", false⟩, ⟨'I', "", false⟩, ⟨'r', "recursive", false⟩,
      ⟨'R', "", false⟩, ⟨'d', "dir", false⟩, ⟨'v', "verbose", false⟩] arguments
  let a := if a.has 'R' then a.withOption 'r' [] else a
  if a.operands.isEmpty && !a.has 'f' then needs name "missing operand"
  a.operands.forM (removeOne name a)

/-- Take an empty directory away. -/
def removeDirectory (name : List Char) (tells : Bool) (path : List Char) : Step Bool := do
  let what := "failed to remove "
  if tells then say name ("rmdir: removing directory, ".toList ++ inQuotes path ++ ['\n'])
  let stop (o : Obstacle) : Step Bool := do
    cannot name what path o
    return false
  match ← found path with
  | .error o => stop o
  | .ok (_, .file _ _) => stop .notDirectory
  | .ok (loc, .directory) =>
    let last := lastName path
    if last = ['.'] then stop .invalid
    else if !((← Step.world).tree.children loc).isEmpty || last = ['.', '.'] then stop .notEmpty
    else if loc = [] then stop .busy
    else if !(← mayRemove loc) then stop .denied
    else
      Step.modifyTree fun t => t.remove loc
      return true

/-- The paths of a directory and of those above it that the path names. -/
def upwardPaths (path : List Char) : Nat → List (List Char)
  | 0 => []
  | bound + 1 =>
    let path := withoutSlashes path
    let outer := withoutSlashes (path.take (path.length - (lastName path).length))
    if outer.isEmpty then [path] else path :: upwardPaths outer bound

/-- Take directories away as long as they are empty. -/
def removeUpward (name : List Char) (tells : Bool) : List (List Char) → Step Unit
  | [] => return
  | path :: rest => do
    if ← removeDirectory name tells path then removeUpward name tells rest

/-- Take empty directories away. -/
def rmdir : Tool := fun name arguments => do
  setStatus 0
  let a ← options name [⟨'p', "parents", false⟩, ⟨'v', "verbose", false⟩] arguments
  if a.operands.isEmpty then needs name "missing operand"
  a.operands.forM fun path =>
    removeUpward name (a.has 'v') (if a.has 'p' then upwardPaths path path.length else [path])

/-! ### Making -/

def makeDirectory (name : List Char) (tells : Bool) (path : List Char) : Step Bool := do
  let what := "cannot create directory "
  match ← Step.place path with
  | .error o =>
    cannot name what path o
    return false
  | .ok loc =>
    if ((← Step.world).tree.at? loc).isSome then
      cannot name what path .occupied
      return false
    else if !(← mayRemove loc) then
      cannot name what path .denied
      return false
    else
      Step.modifyTree fun t => t.put loc .directory
      if tells then say name (name ++ ": created directory ".toList ++ inQuotes path ++ ['\n'])
      return true

/-- Make directories one in another, as far as they are missing. -/
def makeUpward (name : List Char) (tells : Bool) : List (List Char) → Step Unit
  | [] => return
  | path :: rest => do
    match ← Step.entryAt? path with
    | some .directory => makeUpward name tells rest
    | some (.file _ _) =>
      cannot name "cannot create directory " path (if rest.isEmpty then .occupied else .notDirectory)
    | none => if ← makeDirectory name tells path then makeUpward name tells rest

def mkdir : Tool := fun name arguments => do
  setStatus 0
  let a ← options name
    [⟨'p', "parents", false⟩, ⟨'m', "mode", true⟩, ⟨'v', "verbose", false⟩] arguments
  if a.operands.isEmpty then needs name "missing operand"
  a.operands.forM fun path => do
    if a.has 'p' && !path.isEmpty then
      makeUpward name (a.has 'v') (upwardPaths path path.length).reverse
    else
      let _ ← makeDirectory name (a.has 'v') path

/-- Make files that are missing. -/
def touch : Tool := fun name arguments => do
  setStatus 0
  let a ← options name
    [⟨'a', "", false⟩, ⟨'c', "no-create", false⟩, ⟨'d', "date", true⟩, ⟨'f', "", false⟩,
      ⟨'h', "no-dereference", false⟩, ⟨'m', "", false⟩, ⟨'r', "reference", true⟩, ⟨'t', "", true⟩]
    arguments
  if a.operands.isEmpty then needs name "missing file operand"
  a.operands.forM fun path => do
    match ← found path with
    | .ok (loc, _) =>
      if !(← Step.world).isOwn loc then cannot name "cannot touch " path .denied
    | .error .missing =>
      if a.has 'c' then return
      else if endsInSlash path then cannot name "setting times of " path .missing
      else if let some o ← overwrite path [] true then cannot name "cannot touch " path o
    | .error o => cannot name "cannot touch " path o

/-! ### Moving and copying -/

/-- The files that operands name and where they go, each to a path of its own. What comes back last is
a target that is no directory although several files go there. -/
def destinations (name : List Char) (a : Arguments) : Step (List (List Char × List Char)) := do
  let into (directory : List Char) (files : List (List Char)) : List (List Char × List Char) :=
    files.map fun file => (file, below directory (lastName file))
  let intoDirectory (directory : List Char) (files : List (List Char)) :
      Step (List (List Char × List Char)) := do
    match ← found directory with
    | .ok (_, .directory) => return into directory files
    | .ok _ => refuse name ("target ".toList ++ inQuotes directory ++ ": Not a directory".toList)
    | .error o =>
      refuse name ("target ".toList ++ inQuotes directory ++ ": ".toList ++ o.wording.toList)
  match a.value? 't', a.operands with
  | some directory, [] => if directory.isEmpty then return [] else needs name "missing file operand"
  | some directory, files => intoDirectory directory files
  | none, [] => needs name "missing file operand"
  | none, [file] => misused name ("missing destination file operand after ".toList ++ inQuotes file)
  | none, [file, dest] =>
    if !a.has 'T' && !dest.isEmpty && (← isDirectory dest) then return into dest [file] else return [(file, dest)]
  | none, files =>
    if a.has 'T' then misused name ("extra operand ".toList ++ inQuotes (files[2]?.getD []))
    else intoDirectory (files.getLast?.getD []) files.dropLast

def moveOne (name : List Char) (a : Arguments) (path dest : List Char) : Step Unit := do
  let between := inQuotes path ++ " to ".toList ++ inQuotes dest
  let stop (o : Obstacle) : Step Unit := failWith name ("cannot move ".toList ++ between) o.wording
  let say_ (text : List Char) : Step Unit := do
    warn name text
    setStatus 1
  match ← found path with
  | .error o => cannot name "cannot stat " path o
  | .ok (loc, e) =>
    match ← Step.place dest with
    | .error o => stop o
    | .ok target =>
      let w ← Step.world
      let there := w.tree.at? target
      let last := lastName path
      let isPlain := e.isFile
      if there.isSome && a.has 'n' then return
      else if isPlain && there.isNone && endsInSlash dest then stop .notDirectory
      else if loc = target then say_ (inQuotes path ++ " and ".toList ++ inQuotes dest ++ " are the same file".toList)
      else if there = some .directory && isPlain then
        say_ ("cannot overwrite directory ".toList ++ inQuotes dest ++ " with non-directory".toList)
      else if there.any Entry.isFile && !isPlain then
        say_ ("cannot overwrite non-directory ".toList ++ inQuotes dest ++ " with directory ".toList ++
          inQuotes path)
      else if last = ['.'] || last = ['.', '.'] || loc = [] then stop .busy
      else if FileTree.isWithin target loc then
        say_ ("cannot move ".toList ++ inQuotes path ++ " to a subdirectory of itself, ".toList ++
          inQuotes dest)
      else if there = some .directory && !(w.tree.children target).isEmpty then
        failWith name ("cannot overwrite ".toList ++ inQuotes dest) Obstacle.notEmpty.wording
      else if !w.isOpenAround loc || !w.isOpenAround target then stop .denied
      else
        Step.modifyTree fun t => t.move loc target
        if a.has 'v' then
          say name ("renamed ".toList ++ inQuotes path ++ " -> ".toList ++ inQuotes dest ++ ['\n'])

def mv : Tool := fun name arguments => do
  setStatus 0
  let a ← options name
    [⟨'f', "force", false⟩, ⟨'i', "interactive", false⟩, ⟨'n', "no-clobber", false⟩,
      ⟨'u', "", false⟩, ⟨'v', "verbose", false⟩, ⟨'t', "target-directory", true⟩,
      ⟨'T', "no-target-directory", false⟩] arguments
  (← destinations name a).forM fun (path, dest) => moveOne name a path dest

/-- The tree with a copy of what is at a location. A file that is there keeps its permission bits, and
a new one has those that the mask leaves. -/
def copied (tree : FileTree) (mask : Nat) (keeps : Bool) (loc target : Location) : FileTree :=
  let new := (tree.entries.filter fun e => FileTree.isWithin e.1 loc).map fun (l, e) =>
    let dest := l.take (l.length - loc.length) ++ target
    (dest, match e with
      | .directory => Entry.directory
      | .file content mode =>
        match tree.at? dest with
        | some (.file _ old) => .file content (if keeps then mode else old)
        | _ => .file content (if keeps then mode else mode &&& (0o777 ^^^ mask)))
  { tree with entries := new ++ tree.entries }

def copyFile (name : List Char) (keeps forced : Bool) (path dest : List Char) (loc target : Location) :
    Step Unit := do
  let w ← Step.world
  let create (o : Obstacle) : Step Unit := cannot name "cannot create regular file " dest o
  let mask := (← Step.session).mask
  let put (tree : FileTree) : Step Unit :=
    Step.modifyTree fun _ => copied tree mask keeps loc target
  match w.tree.at? loc, w.tree.at? target with
  | some (.file _ mode), there =>
    if mode &&& Entry.readBit == 0 then
      failWith name ("cannot open ".toList ++ inQuotes path ++ " for reading".toList)
        Obstacle.denied.wording
    else
      match there with
      | some (.file _ old) =>
        if !w.isOwn target then create .denied
        else if old &&& Entry.writeBit == 0 then
          if forced then put (w.tree.remove target) else create .denied
        else put w.tree
      | _ =>
        if endsInSlash dest then create .notDirectory
        else if !w.isOpenAround target then create .denied
        else put w.tree
  | _, _ => return

def copyOne (name : List Char) (a : Arguments) (path dest : List Char) : Step Unit := do
  let keeps := a.has 'p' || a.has 'a'
  let say_ (text : List Char) : Step Unit := do
    warn name text
    setStatus 1
  match ← found path with
  | .error o => cannot name "cannot stat " path o
  | .ok (loc, e) =>
    if e = .directory && !a.has 'r' then
      say_ ("-r not specified; omitting directory ".toList ++ inQuotes path)
    else
      match ← Step.place dest with
      | .error o =>
        cannot name (if e.isFile then "cannot create regular file " else "cannot create directory ") dest o
      | .ok target =>
        let tree := (← Step.world).tree
        let there := tree.at? target
        if there.isSome && a.has 'n' then return
        else if loc = target && e.isFile then
          say_ (inQuotes path ++ " and ".toList ++ inQuotes dest ++ " are the same file".toList)
        else if there = some .directory && e.isFile then
          say_ ("cannot overwrite directory ".toList ++ inQuotes dest ++ " with non-directory".toList)
        else if there.any Entry.isFile && !e.isFile then
          say_ ("cannot overwrite non-directory ".toList ++ inQuotes dest ++ " with directory ".toList ++
            inQuotes path)
        else if !e.isFile && FileTree.isWithin target loc then
          say_ ("cannot copy a directory, ".toList ++ inQuotes path ++ ", into itself, ".toList ++
            inQuotes dest)
        else
          let tell (from_ dest : List Char) : Step Unit :=
            if a.has 'v' then say name (inQuotes from_ ++ " -> ".toList ++ inQuotes dest ++ ['\n'])
            else return
          if e.isFile then
            copyFile name keeps (a.has 'f') path dest loc target
            tell path dest
          else
            let mask := (← Step.session).mask
            Step.modifyTree fun t => copied t mask keeps loc target
            tell path dest
            (pathsBelow tree (deepest tree) path loc).forM fun (inner, _) =>
              tell inner (dest ++ inner.drop path.length)

def cp : Tool := fun name arguments => do
  setStatus 0
  let a ← options name
    [⟨'r', "recursive", false⟩, ⟨'R', "", false⟩, ⟨'a', "archive", false⟩, ⟨'p', "", false⟩,
      ⟨'d', "", false⟩, ⟨'f', "force", false⟩, ⟨'i', "interactive", false⟩,
      ⟨'n', "no-clobber", false⟩, ⟨'u', "", false⟩, ⟨'v', "verbose", false⟩, ⟨'L', "", false⟩,
      ⟨'P', "", false⟩, ⟨'H', "", false⟩, ⟨'t', "target-directory", true⟩,
      ⟨'T', "no-target-directory", false⟩] arguments
  let a := if a.has 'R' || a.has 'a' then a.withOption 'r' [] else a
  (← destinations name a).forM fun (path, dest) => copyOne name a path dest

example : lastName "a/b//".toList = ['b'] ∧ lastName "/".toList = [] := by decide
example : upwardPaths "a/b/".toList 9 = ["a/b".toList, "a".toList] := by decide

end Tool

end BuildPlan
