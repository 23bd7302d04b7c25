import BuildPlan.Tool.Files
import BuildPlan.Tool.Regex

/-!
# Searching text

`grep` prints the lines in which a pattern fits, or counts them, or only says that there are some.

* `Search` is what is looked for and how.
* `Search.places` are the stretches of a line where it fits.
-/

namespace BuildPlan

open Shell (Step)

namespace Tool

structure Search where
  expression : Regex
  /-- Small and capital letters are the same. -/
  ignoresCase : Bool
  /-- The stretch is a whole word. -/
  isWord : Bool
  /-- The stretch is a whole line. -/
  isLine : Bool

namespace Search

def accepts (f : Search) (s : Regex.Subject) (start : Nat) (w : Regex.Way) : Bool :=
  (!f.isLine || (start == 0 && w.position == s.text.size)) &&
    (!f.isWord || (!(Regex.around s start).1 && !(Regex.around s w.position).2))

/-- The longest stretch from a position. -/
def longest? (f : Search) (s : Regex.Subject) (start : Nat) : Option Nat :=
  ((Regex.ways s f.expression ⟨start, []⟩).filter (accepts f s start)).foldl
    (fun best w => match best with
      | none => some w.position
      | some n => some (max n w.position)) none

/-- The first stretch from a position on. -/
def find? (f : Search) (s : Regex.Subject) (start : Nat) : Option (Nat × Nat) :=
  (List.range (s.text.size + 1 - start)).findSome? fun i =>
    (longest? f s (start + i)).map fun n => (start + i, n)

def subject (f : Search) (line : List Char) : Regex.Subject := ⟨line.toArray, f.ignoresCase⟩

/-- The line has a stretch where it fits. -/
def fits (f : Search) (line : List Char) : Bool := (find? f (subject f line) 0).isSome

/-- The stretches where it fits, one after the other, at most so many. -/
def stretches (f : Search) (s : Regex.Subject) : Nat → Nat → List (List Char)
  | 0, _ => []
  | bound + 1, start =>
    match find? f s start with
    | none => []
    | some (a, b) =>
      if a = b then (if s.text.size ≤ a then [] else stretches f s bound (a + 1))
      else s.slice a b :: stretches f s bound b

/-- The stretches of a line where it fits. -/
def places (f : Search) (line : List Char) : List (List Char) :=
  stretches f (subject f line) (line.length + 1) 0

end Search

/-- The expression that is a text itself. -/
def literal (text : List Char) : Regex :=
  text.foldr (fun c r => .sequence (.char c) r) .empty

/-- The expression for patterns, one of which is to fit. -/
def expressionOf (a : Arguments) (patterns : List (List Char)) : Except String Regex := do
  let one (text : List Char) : Except String Regex :=
    if a.has 'F' then .ok (literal text)
    else if text.getLast? = some '[' then .error "Invalid regular expression"
    else Regex.read (a.has 'E') text
  match ← patterns.mapM one with
  | [] => return .oneOf false []
  | r :: rest => return rest.foldl Regex.either r

def searchOptions : List Opt :=
  [⟨'E', "extended-regexp", false⟩, ⟨'F', "fixed-strings", false⟩, ⟨'G', "basic-regexp", false⟩,
    ⟨'P', "perl-regexp", false⟩, ⟨'e', "regexp", true⟩, ⟨'f', "file", true⟩,
    ⟨'i', "ignore-case", false⟩, ⟨'y', "", false⟩, ⟨'v', "invert-match", false⟩,
    ⟨'w', "word-regexp", false⟩, ⟨'x', "line-regexp", false⟩, ⟨'c', "count", false⟩,
    ⟨'l', "files-with-matches", false⟩, ⟨'L', "files-without-match", false⟩,
    ⟨'n', "line-number", false⟩, ⟨'o', "only-matching", false⟩, ⟨'q', "quiet", false⟩,
    ⟨'q', "silent", false⟩, ⟨'s', "no-messages", false⟩, ⟨'h', "no-filename", false⟩,
    ⟨'H', "with-filename", false⟩, ⟨'m', "max-count", true⟩, ⟨'A', "after-context", true⟩,
    ⟨'B', "before-context", true⟩, ⟨'C', "context", true⟩, ⟨'r', "recursive", false⟩,
    ⟨'R', "dereference-recursive", false⟩, ⟨'a', "text", false⟩, ⟨'b', "byte-offset", false⟩,
    ⟨'I', "", false⟩, ⟨'U', "", false⟩]

/-- The lines of a file that are printed, with whether each is selected, numbered from one. Nothing
stands where lines are left out between two that are printed. -/
def shownLines (before after : Nat) (selected : List Bool) (lines : List (List Char)) :
    List (Option (Nat × Bool × List Char)) :=
  let near (i : Nat) : Bool :=
    (List.range (before + after + 1)).any fun d =>
      after ≤ i + d && (selected[i + d - after]?).any id
  let rows := ((selected.zip lines).zipIdx).map fun ((isSelected, line), i) =>
    if near i then some (i + 1, isSelected, line) else none
  let hasContext := decide (0 < before + after)
  let (out, _, _) := rows.foldl
    (fun (out, gap, started) row => match row with
      | none => (out, true, started)
      | some r => ((if gap && started && hasContext then [some r, none] else [some r]) ++ out, false, true))
    (([] : List (Option (Nat × Bool × List Char))), false, false)
  out.reverse

/-- The first selected lines stay selected, at most so many. -/
def limited : Option Nat → List Bool → List Bool
  | none, bs => bs
  | some _, [] => []
  | some n, b :: bs =>
    if b then (if n = 0 then false :: limited (some 0) bs else true :: limited (some (n - 1)) bs)
    else false :: limited (some n) bs

/-- What is printed about a text, and whether a line is selected. -/
def searched (a : Arguments) (f : Search) (title : Option (List Char)) (path text : List Char) :
    List Char × Bool :=
  let lines := Letters.lines text
  let number (letter : Char) : Option Nat := (a.value? letter).bind Shell.Decimal.digits?
  let selected := limited (number 'm') (lines.map fun l => f.fits l != a.has 'v')
  let count := (selected.filter id).length
  let any := decide (0 < count)
  let context (letter : Char) : Nat := ((number letter).orElse fun _ => number 'C').getD 0
  let start (separator : Char) (n : Nat) : List Char :=
    (title.map fun t => t ++ [separator]).getD [] ++
      (if a.has 'n' then Letters.ofNat n ++ [separator] else [])
  let out :=
    if a.has 'q' then []
    else if a.has 'l' then (if any then path ++ ['\n'] else [])
    else if a.has 'L' then (if any then [] else path ++ ['\n'])
    else if a.has 'c' then (title.map fun t => t ++ [':']).getD [] ++ Letters.ofNat count ++ ['\n']
    else if !a.has 'a' && text.contains '\x00' && any then []
    else if a.has 'o' then
      if a.has 'v' then []
      else ((selected.zip lines).zipIdx).flatMap fun ((isSelected, line), i) =>
        if isSelected then (f.places line).flatMap fun p => start ':' (i + 1) ++ p ++ ['\n'] else []
    else (shownLines (context 'B') (context 'A') selected lines).flatMap fun
      | none => "--\n".toList
      | some (n, isSelected, line) => start (if isSelected then ':' else '-') n ++ line ++ ['\n']
  (out, any)

/-- The files that operands name, those in directories too if asked for. -/
def filesToSearch (a : Arguments) (operands : List (List Char)) : Step (List (List Char)) := do
  if !(a.has 'r' || a.has 'R') then return operands
  let tree := (← Step.world).tree
  operands.flatMapM fun path => do
    match ← found path with
    | .ok (loc, .directory) =>
      let inner := pathsBelow tree (deepest tree) path loc
      return (inner.filter fun x => (tree.at? x.2).any Entry.isFile).map Prod.fst
    | _ => return [path]

/-- Complain about how `grep` was called. -/
def searchMisused {α : Type} (name : List Char) (lines : List (List Char)) : Step α := do
  lines.forM fun l => Step.putError (l ++ ['\n'])
  Step.putError ("Usage: ".toList ++ name ++ " [OPTION]... PATTERNS [FILE]...\n".toList)
  hint name
  finish 2

/-- The patterns that options give, and the other operands. -/
def patternsOf (name : List Char) (a : Arguments) : Step (List (List Char) × List (List Char)) := do
  let given := a.options.filter fun o => o.1 == 'e' || o.1 == 'f'
  if given.isEmpty then
    match a.operands with
    | [] => searchMisused name []
    | p :: rest => return (p.splitOn '\n', rest)
  else
    let lists ← given.mapM fun o => do
      if o.1 == 'e' then return o.2.splitOn '\n'
      else
        match ← input o.2 with
        | .ok text => return Letters.lines text
        | .error why => refuse name (o.2 ++ ": ".toList ++ why.wording.toList) 2
    return (lists.flatten, a.operands)

/-- Print the lines in which a pattern fits. The options come before those that are given. -/
def search (extra : List (Char × List Char)) : Tool := fun name arguments => do
  setStatus 1
  let words := arguments.filter fun w => !"--color".toList.isPrefixOf w
  let a ← options name searchOptions words false 2
  let a := { a with options := extra ++ a.options }
  let a := if a.has 'P' then a.withOption 'E' [] else a
  let (patterns, operands) ← patternsOf name a
  if (a.value? 'm').any fun n => (Shell.Decimal.digits? n).isNone then
    refuse name "invalid max count".toList 2
  match expressionOf a patterns with
  | .error why => refuse name why.toList 2
  | .ok expression =>
    let f : Search := ⟨expression, a.has 'i' || a.has 'y', a.has 'w', a.has 'x'⟩
    let recursive := a.has 'r' || a.has 'R'
    let files ← filesToSearch a (if operands.isEmpty then [if recursive then ['.'] else ['-']] else operands)
    let titled := (1 < operands.length || recursive || a.has 'H') && !a.has 'h'
    let mut isFound := false
    let mut isBroken := false
    for file in files do
      let path := if file = ['-'] then "(standard input)".toList
        else if operands.isEmpty then (Letters.after? "./".toList file).getD file
        else file
      match ← input file with
      | .error o =>
        isBroken := true
        if !a.has 's' then warn name (path ++ ": ".toList ++ o.wording.toList)
      | .ok text =>
        let (out, any) := searched a f (if titled then some path else none) path text
        isFound := isFound || any
        if any && !a.has 'a' && text.contains '\x00' && !(a.has 'q' || a.has 'l' || a.has 'L' || a.has 'c') then
          warn name (path ++ ": binary file matches".toList)
        say name out
        if any && a.has 'q' then finish 0
    setStatus (if isBroken then 2 else if isFound then 0 else 1)

def grep : Tool := search []

def egrep : Tool := fun _ arguments => search [('E', [])] "grep".toList arguments

def fgrep : Tool := fun _ arguments => search [('F', [])] "grep".toList arguments

/-- The stretches of a line that a text fits, for the examples. -/
private def placesOf (pattern line : String) : List String :=
  (Search.places ⟨literal pattern.toList, true, true, false⟩ line.toList).map String.ofList

example : placesOf "ab" "AB xab ab" = ["AB", "ab"] := by decide +kernel

end Tool

end BuildPlan
