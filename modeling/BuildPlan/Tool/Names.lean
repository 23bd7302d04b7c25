import BuildPlan.Shell.Builtin.Around
import BuildPlan.Tool.Permissions

/-!
# Tools that look at paths

`basename`, `dirname`, `pwd`, `realpath`, `readlink`, `stat` and `ls`.

`basename` and `dirname` only look at the text of a path. The others look at what is there.
-/

namespace BuildPlan

open Shell (Step)

namespace Tool

/-! ### The text of a path -/

/-- The last name of a path, a slash for a path of slashes. -/
def baseOf (path : List Char) : List Char :=
  if path.isEmpty then [] else if (withoutSlashes path).isEmpty then ['/'] else lastName path

/-- The name without an ending, unless that is all of it. -/
def withoutEnding (ending name : List Char) : List Char :=
  if ending ≠ name && ending.isSuffixOf name then name.take (name.length - ending.length) else name

/-- Print the last names of paths. -/
def basename : Tool := fun name arguments => do
  setStatus 0
  let a ← options name
    [⟨'a', "multiple", false⟩, ⟨'s', "suffix", true⟩, ⟨'z', "zero", false⟩] arguments true
  let ended (t : List Char) : List Char := t ++ [if a.has 'z' then '\x00' else '\n']
  match a.operands with
  | [] => misused name "missing operand".toList
  | path :: rest =>
    if a.has 'a' || a.has 's' then
      let ending := (a.value? 's').getD []
      say name (a.operands.flatMap fun p => ended (withoutEnding ending (baseOf p)))
    else
      match rest with
      | _ :: extra :: _ => misused name ("extra operand ".toList ++ inQuotes extra)
      | rest => say name (ended (withoutEnding (rest.headD []) (baseOf path)))

/-- The path without its last name. -/
def directoryPartOf (path : List Char) : List Char :=
  let trimmed := withoutSlashes path
  let outer := trimmed.take (trimmed.length - (lastName path).length)
  if outer.isEmpty then (if path.head? = some '/' then ['/'] else ['.'])
  else if (withoutSlashes outer).isEmpty then ['/']
  else withoutSlashes outer

/-- Print paths without their last names. -/
def dirname : Tool := fun name arguments => do
  setStatus 0
  let a ← options name [⟨'z', "zero", false⟩] arguments true
  if a.operands.isEmpty then misused name "missing operand".toList
  say name (a.operands.flatMap fun p => directoryPartOf p ++ [if a.has 'z' then '\x00' else '\n'])

/-! ### Where a path leads -/

/-- Print the working directory. -/
def pwd : Tool := fun name arguments => do
  setStatus 0
  let a ← options name [⟨'L', "logical", false⟩, ⟨'P', "physical", false⟩] arguments
  if !a.operands.isEmpty then warn name "ignoring non-option arguments".toList
  sayLines name [Shell.Builtin.locationText (← Step.session).directory]

/-- The location that a path leads to, or would lead to. The flag asks that something is there. -/
def locationFor (isThere : Bool) (path : List Char) : Step (Except Obstacle Location) :=
  if isThere then Step.resolve path else Step.place path

/-- The location that pieces of a path name, whatever is there. -/
def supposed (loc : Location) (path : List Char) : Location :=
  (path.splitOn '/').foldl
    (fun loc piece =>
      if piece.isEmpty || piece = ['.'] then loc
      else if piece = ['.', '.'] then loc.tail
      else Letters.toText piece :: loc)
    (if path.head? = some '/' then [] else loc)

/-- Print where paths lead. -/
def realpath : Tool := fun name arguments => do
  setStatus 0
  let a ← options name
    [⟨'e', "canonicalize-existing", false⟩, ⟨'m', "canonicalize-missing", false⟩,
      ⟨'q', "quiet", false⟩, ⟨'s', "no-symlinks", false⟩, ⟨'L', "logical", false⟩,
      ⟨'P', "physical", false⟩, ⟨'z', "zero", false⟩] arguments
  if a.operands.isEmpty then misused name "missing operand".toList
  a.operands.forM fun path => do
    let result ←
      if a.has 'm' && !path.isEmpty then
        pure (Except.ok (supposed (← Step.session).directory path))
      else locationFor (a.has 'e') path
    match result with
    | .ok loc => sayLines name [Shell.Builtin.locationText loc]
    | .error o =>
      if !a.has 'q' then
        warn name ((if path.isEmpty then inQuotes path else quoted path) ++ ": ".toList ++
          o.wording.toList)
      setStatus 1

/-- Print where links lead, of which there are none, or with an option where paths lead. -/
def readlink : Tool := fun name arguments => do
  setStatus 0
  let a ← options name
    [⟨'f', "canonicalize", false⟩, ⟨'e', "canonicalize-existing", false⟩,
      ⟨'m', "canonicalize-missing", false⟩, ⟨'n', "no-newline", false⟩, ⟨'q', "quiet", false⟩,
      ⟨'s', "silent", false⟩, ⟨'v', "verbose", false⟩] arguments
  if a.operands.isEmpty then misused name "missing operand".toList
  a.operands.forM fun path => do
    if a.has 'm' then
      sayLines name [Shell.Builtin.locationText (supposed (← Step.session).directory path)]
    else if a.has 'f' || a.has 'e' then
      match ← locationFor (a.has 'e') path with
      | .ok loc =>
        say name (Shell.Builtin.locationText loc ++ (if a.has 'n' then [] else ['\n']))
      | .error o =>
        if a.has 'v' then warn name (quoted path ++ ": ".toList ++ o.wording.toList)
        setStatus 1
    else setStatus 1

/-! ### What is there -/

/-- A format with what is known of a file filled in. -/
def statText (path : List Char) (e : Entry) : List Char → List Char
  | '%' :: c :: rest =>
    (match c, e with
      | 'n', _ => path
      | 'a', .file _ mode => Nat.toDigits 8 mode
      | 'a', .directory => "755".toList
      | 'A', .file _ mode => '-' :: modeLetters mode
      | 'A', .directory => "drwxr-xr-x".toList
      | 's', .file content _ => Letters.ofNat content.length
      | 's', .directory => Letters.ofNat 4096
      | 'F', .file [] _ => "regular empty file".toList
      | 'F', .file _ _ => "regular file".toList
      | 'F', .directory => "directory".toList
      | '%', _ => ['%']
      | _, _ => ['?']) ++ statText path e rest
  | c :: rest => c :: statText path e rest
  | [] => []

/-- Print what is known of files. -/
def stat : Tool := fun name arguments => do
  setStatus 0
  let a ← options name [⟨'c', "format", true⟩, ⟨'L', "dereference", false⟩] arguments
  if a.operands.isEmpty then misused name "missing operand".toList
  let format := (a.value? 'c').getD "%n".toList
  a.operands.forM fun path => do
    match ← found path with
    | .ok (_, e) => sayLines name [statText path e format]
    | .error o => cannot name "cannot statx " path o

def listOptions : List Opt :=
  [⟨'a', "all", false⟩, ⟨'A', "almost-all", false⟩, ⟨'d', "directory", false⟩,
    ⟨'F', "classify", false⟩, ⟨'p', "", false⟩, ⟨'r', "reverse", false⟩, ⟨'R', "recursive", false⟩] ++
  letters "1lhtSUfCxqQnosuckXvBbNLHg"

/-- A name with a sign for what it names, if asked for. -/
def marked (a : Arguments) (e : Entry) (name : List Char) : List Char :=
  match e with
  | .directory => if a.has 'F' || a.has 'p' then name ++ ['/'] else name
  | .file _ _ => if a.has 'F' && e.isExecutable then name ++ ['*'] else name

/-- Names in the order in which they are listed. -/
def inListOrder (a : Arguments) (names : List (List Char × Entry)) : List (List Char × Entry) :=
  let sorted := names.mergeSort fun m n => Letters.before m.1 n.1
  if a.has 'r' then sorted.reverse else sorted

/-- The names in a directory, as far as they are listed. -/
def listed (a : Arguments) (tree : FileTree) (loc : Location) : List (List Char × Entry) :=
  let names := (tree.children loc).map fun child =>
    (Letters.ofText child, (tree.at? (child :: loc)).getD .directory)
  let dots := [(['.'], Entry.directory), (['.', '.'], Entry.directory)]
  let names := if a.has 'a' then dots ++ names
    else if a.has 'A' then names
    else names.filter fun n => n.1.head? ≠ some '.'
  inListOrder a names

/-- Texts with blanks before them, so that they are equally wide. -/
def aligned (texts : List (List Char)) : List (List Char) :=
  let width := texts.foldl (fun n t => max n t.length) 0
  texts.map fun t => List.replicate (width - t.length) ' ' ++ t

/-- The size of a file, or of what a directory takes. -/
def sizeOf (e : Entry) : Nat :=
  match e with
  | .file content _ => content.length
  | .directory => 4096

/-- Names as they are listed: alone, or with what is known of each. -/
def shownNames (a : Arguments) (names : List (List Char × Entry)) : List (List Char) :=
  if !a.has 'l' then names.map fun n => marked a n.2 n.1
  else
    let links := aligned (names.map fun n => if n.2.isFile then ['1'] else ['2'])
    let sizes := aligned (names.map fun n => Letters.ofNat (sizeOf n.2))
    (names.zip (links.zip sizes)).map fun (n, link, size) =>
      statText n.1 n.2 "%A ".toList ++ link ++ " root root ".toList ++ size ++
        " Jan  1 00:00 ".toList ++ marked a n.2 n.1

/-- How much a directory's files take on a disk, in units of 1024 bytes. -/
def totalLine (names : List (List Char × Entry)) : List Char :=
  "total ".toList ++ Letters.ofNat (names.foldl (fun t n => t + (sizeOf n.2 + 4095) / 4096 * 4) 0)

/-- The lines about a directory, and about those in it if asked for. Each directory comes with its path. -/
def sections (a : Arguments) (tree : FileTree) : Nat → List Char → Location →
    List (List Char × List (List Char))
  | 0, _, _ => []
  | depth + 1, path, loc =>
    let names := listed a tree loc
    (path, (if a.has 'l' then [totalLine names] else []) ++ shownNames a names) ::
      if a.has 'R' then
        (names.filter fun n => n.2 = .directory && n.1 ≠ ['.'] && n.1 ≠ ['.', '.']).flatMap fun n =>
          sections a tree depth (below path n.1) (Letters.toText n.1 :: loc)
      else []

/-- Print the names in directories. -/
def ls : Tool := fun name arguments => do
  setStatus 0
  let a ← options name listOptions arguments false 2
  let operands := if a.operands.isEmpty then [['.']] else a.operands
  let there ← operands.filterMapM fun path => do
    match ← found path with
    | .ok (loc, e) => return some (path, loc, e)
    | .error o =>
      cannot name "cannot access " path o
      setStatus 2
      return none
  let isShownItself (e : Entry) : Bool := e.isFile || a.has 'd'
  let files := there.filter fun x => isShownItself x.2.2
  let directories := there.filter fun x => !isShownItself x.2.2
  let tree := (← Step.world).tree
  let filePart := shownNames a (inListOrder a (files.map fun x => (x.1, x.2.2)))
  let ordered := (inListOrder a (directories.map fun x => (x.1, x.2.2))).filterMap fun n =>
    directories.find? fun x => x.1 = n.1
  let parts := ordered.flatMap fun x => sections a tree (deepest tree) x.1 x.2.1
  let titled := a.has 'R' || 1 < operands.length
  let blocks := parts.map fun (path, names) =>
    (if titled then [path ++ [':']] else []) ++ names
  let blocks := if filePart.isEmpty then blocks else filePart :: blocks
  sayLines name ([[]].intercalate blocks)

example : baseOf "a/b/".toList = ['b'] ∧ baseOf "//".toList = ['/'] := by decide
example : directoryPartOf "/a".toList = ['/'] ∧ directoryPartOf "a///b".toList = ['a'] := by decide

end Tool

end BuildPlan
