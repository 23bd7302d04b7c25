import BuildPlan.Shell.Printing
import BuildPlan.Tool.Basic

/-!
# Tools that pass lines on

`cat`, `tac`, `rev`, `nl`, `head`, `tail`, `uniq`, `paste`, `tee`, `wc`, `seq` and `yes`.

A line keeps its end, so that text without a line end at its end is passed on as it is.
-/

namespace BuildPlan

open Shell (Step)

namespace Tool

/-- The lines of a text, each with its end if it has one. -/
def fullLines (text : List Char) : List (List Char) :=
  let pieces := text.splitOn '\n'
  let ended := pieces.dropLast.map fun l => l ++ ['\n']
  match pieces.getLast? with
  | some [] => ended
  | some l => ended ++ [l]
  | none => ended

/-- Text made wide by blanks before it. -/
def rightAligned (width : Nat) (text : List Char) : List Char :=
  List.replicate (width - text.length) ' ' ++ text

/-- The line without its end. -/
def bare (line : List Char) : List Char := if line.getLast? = some '\n' then line.dropLast else line

/-! ### Whole files -/

/-- How `cat` shows a character that does not print. -/
def visible (tabs : Bool) (c : Char) : List Char :=
  let low (c : Char) : List Char :=
    if c = '\t' then (if tabs then ['^', 'I'] else [c])
    else if c = '\n' then [c]
    else if c.toNat < 32 then ['^', Char.ofNat (c.toNat + 64)]
    else if c.toNat = 127 then ['^', '?']
    else [c]
  if 128 ≤ c.toNat then 'M' :: '-' :: (
    let d := Char.ofNat (c.toNat - 128)
    if d = '\t' then ['^', 'I'] else if d = '\n' then ['^', 'J'] else low d)
  else low c

/-- Lines with numbers before them, from a number on. The flag leaves empty lines without. -/
def numbered (nonBlank : Bool) : Nat → List (List Char) → List (List Char)
  | _, [] => []
  | n, l :: rest =>
    if nonBlank && bare l = [] then l :: numbered nonBlank n rest
    else (rightAligned 6 (Letters.ofNat n) ++ ['\t'] ++ l) :: numbered nonBlank (n + 1) rest

/-- Lines where of several empty ones only the first is kept. -/
def squeezed : Bool → List (List Char) → List (List Char)
  | _, [] => []
  | afterEmpty, l :: rest =>
    let isEmpty := decide (l = ['\n'])
    if isEmpty && afterEmpty then squeezed true rest else l :: squeezed isEmpty rest

/-- The location of the file that a channel leads to, and where it is read or written next. -/
def placeOf (descriptor : Nat) : Step (Option (Location × Nat)) := do
  let w ← Step.world
  return ((← Step.session).channel? descriptor).bind fun c =>
    (w.channels[c]?).bind fun c =>
      match c.target with
      | .file place =>
        match w.tree.at? place with
        | some (.file content _) => some (place, if c.appends then content.length else c.position)
        | _ => none
      | _ => none

/-- The file would be passed on to itself, past the place where it is read. -/
def chasesItself (file : List Char) : Step Bool := do
  match ← placeOf 1 with
  | none => return false
  | some (outPlace, outPosition) =>
    let inside? ←
      if file = ['-'] then placeOf 0
      else
        match ← Step.resolve file with
        | .ok place => pure (some (place, 0))
        | .error _ => pure none
    return inside?.any fun (place, position) => decide (place = outPlace ∧ position < outPosition)

def passOn (name : List Char) (files : List (List Char)) : Step Unit := do
  files.forM fun file => do
    if ← chasesItself file then
      warn name (quoted file ++ ": input file is output file".toList)
      setStatus 1
    else eachInput name [file] fun _ text => say name text
  if files.contains ['-'] && ((← Step.session).channel? 0).isNone then
    warn name "closing standard input: Bad file descriptor".toList
    setStatus 1

/-- Pass files on, one after the other. -/
def cat : Tool := fun name arguments => do
  setStatus 0
  let a ← options name
    [⟨'A', "show-all", false⟩, ⟨'b', "number-nonblank", false⟩, ⟨'e', "", false⟩,
      ⟨'E', "show-ends", false⟩, ⟨'n', "number", false⟩, ⟨'s', "squeeze-blank", false⟩,
      ⟨'t', "", false⟩, ⟨'T', "show-tabs", false⟩, ⟨'u', "", false⟩, ⟨'v', "show-nonprinting", false⟩]
    arguments
  if a.options.all fun o => o.1 == 'u' then passOn name (if a.operands.isEmpty then [['-']] else a.operands)
  else
    let text := (← inputs name a.operands).flatMap Prod.snd
    let tabs := a.has 'A' || a.has 't' || a.has 'T'
    let ends := a.has 'A' || a.has 'e' || a.has 'E'
    let shows := a.has 'A' || a.has 'e' || a.has 't' || a.has 'v'
    let ls := fullLines text
    let ls := if a.has 's' then squeezed false ls else ls
    let ls := ls.map fun l =>
      let l := if shows then l.flatMap (visible tabs)
        else if tabs then l.flatMap fun c => if c = '\t' then ['^', 'I'] else [c]
        else l
      if ends && l.getLast? = some '\n' then l.dropLast ++ ['$', '\n'] else l
    let ls := if a.has 'b' then numbered true 1 ls else if a.has 'n' then numbered false 1 ls else ls
    say name ls.flatten

/-- Pass the lines of files on, last line first. -/
def tac : Tool := fun name arguments => do
  setStatus 0
  let a ← options name [] arguments
  let describe (file : List Char) : List Char :=
    "failed to open ".toList ++ inQuotes file ++ " for reading".toList
  eachInput name a.operands (fun _ text => say name (fullLines text).reverse.flatten) describe

/-- Pass lines on, last character first. -/
def rev : Tool := fun name arguments => do
  setStatus 0
  let a ← options name [] arguments
  eachInput name a.operands fun _ text =>
    say name ((fullLines text).flatMap fun l =>
      if l.getLast? = some '\n' then l.dropLast.reverse ++ ['\n'] else l.reverse)

/-- Pass lines on with numbers before them. -/
def nl : Tool := fun name arguments => do
  setStatus 0
  let a ← options name (valued "bwsv") arguments
  let texts ← inputs name a.operands
  let text := texts.flatMap Prod.snd
  let width := ((a.value? 'w').bind Shell.Decimal.digits?).getD 6
  let between := (a.value? 's').getD ['\t']
  let start := ((a.value? 'v').bind Shell.Decimal.digits?).getD 1
  let all := a.value? 'b' = some ['a']
  let (_, out) := (fullLines text).foldl
    (fun (n, out) l =>
      if bare l = [] && !all then (n, (List.replicate (width + between.length) ' ' ++ l) :: out)
      else (n + 1, (rightAligned width (Letters.ofNat n) ++ between ++ l) :: out))
    (start, ([] : List (List Char)))
  say name out.reverse.flatten

/-! ### Parts of files -/

/-- A count with a suffix for a multiple. -/
def countOf (text : List Char) : Option Nat :=
  let digits := text.takeWhile Char.isDigit
  if digits.isEmpty then none
  else
    let n := Shell.Decimal.natural digits
    match String.ofList (text.drop digits.length) with
    | "" => some n
    | "b" => some (n * 512)
    | "k" => some (n * 1024)
    | "K" => some (n * 1024)
    | "M" => some (n * 1048576)
    | _ => none

/-- The first words, with an old option such as `-5` written as one with a letter. -/
def modernised (arguments : List (List Char)) : List (List Char) :=
  match arguments with
  | ('-' :: d :: cs) :: rest =>
    if d.isDigit && cs.all Char.isDigit then "-n".toList :: (d :: cs) :: rest
    else if d.isDigit && cs.dropLast.all Char.isDigit && cs.getLast? = some 'c' then
      "-c".toList :: (d :: cs.dropLast) :: rest
    else arguments
  | ('+' :: d :: cs) :: rest =>
    if d.isDigit && cs.all Char.isDigit then "-n".toList :: ('+' :: d :: cs) :: rest else arguments
  | _ => arguments

/-- What is taken of a file: lines or characters. -/
structure Share where
  isLines : Bool := true
  sign : Option Char := none
  count : Nat := 10

/-- Read what is to be taken of a file. -/
def shareOf (name : List Char) (a : Arguments) : Step Share := do
  match (a.options.filter fun o => o.1 == 'n' || o.1 == 'c').getLast? with
  | none => return {}
  | some (letter, value) =>
    let (sign, digits) := match value with
      | '-' :: rest => (some '-', rest)
      | '+' :: rest => (some '+', rest)
      | rest => (none, rest)
    let isLines := letter == 'n'
    match countOf digits with
    | some n => return ⟨isLines, sign, n⟩
    | none =>
      refuse name ((if isLines then "invalid number of lines: " else "invalid number of bytes: ").toList ++
        inQuotes value)

def headOf (s : Share) (text : List Char) : List Char :=
  if s.isLines then
    let ls := fullLines text
    (if s.sign = some '-' then ls.take (ls.length - s.count) else ls.take s.count).flatten
  else if s.sign = some '-' then text.take (text.length - s.count)
  else text.take s.count

def tailOf (s : Share) (text : List Char) : List Char :=
  if s.isLines then
    let ls := fullLines text
    (if s.sign = some '+' then ls.drop (s.count - 1) else ls.drop (ls.length - s.count)).flatten
  else if s.sign = some '+' then text.drop (s.count - 1)
  else text.drop (text.length - s.count)

/-- Pass a part of each file on, with a title before each of several. -/
def partOf (part : Share → List Char → List Char) : Tool := fun name arguments => do
  setStatus 0
  let a ← options name
    [⟨'n', "lines", true⟩, ⟨'c', "bytes", true⟩, ⟨'q', "quiet", false⟩, ⟨'v', "verbose", false⟩,
      ⟨'f', "follow", false⟩, ⟨'z', "zero-terminated", false⟩] (modernised arguments)
  let share ← shareOf name a
  let files := if a.operands.isEmpty then [['-']] else a.operands
  let titled := a.has 'v' || (files.length > 1 && !a.has 'q')
  let show_ (isFirst : Bool) (file : List Char) : Step Bool := do
    let title := if file = ['-'] then "standard input".toList else file
    let head := (if isFirst then [] else ['\n']) ++ "==> ".toList ++ title ++ " <==\n".toList
    match ← input file with
    | .ok text =>
      say name ((if titled then head else []) ++ part share text)
      return false
    | .error .isDirectory =>
      if titled then say name head
      warn name ("error reading ".toList ++ inQuotes file ++ ": Is a directory".toList)
      setStatus 1
      return false
    | .error o =>
      warn name ("cannot open ".toList ++ inQuotes file ++ " for reading: ".toList ++ o.wording.toList)
      setStatus 1
      return isFirst
  let _ ← files.foldlM show_ true
  return

/-- Pass the start of files on. -/
def head : Tool := partOf headOf

/-- Pass the end of files on. -/
def tail : Tool := partOf tailOf

/-- Groups of neighbouring lines that are the same. -/
def groups (same : List Char → List Char → Bool) : List (List Char) → List (List Char × Nat)
  | [] => []
  | l :: rest =>
    match groups same rest with
    | (m, n) :: more => if same l m then (l, n + 1) :: more else (l, 1) :: (m, n) :: more
    | [] => [(l, 1)]

/-- Pass lines on, of several that are the same only one. -/
def uniq : Tool := fun name arguments => do
  setStatus 0
  let a ← options name
    [⟨'c', "count", false⟩, ⟨'d', "repeated", false⟩, ⟨'u', "unique", false⟩,
      ⟨'i', "ignore-case", false⟩, ⟨'f', "skip-fields", true⟩, ⟨'s', "skip-chars", true⟩]
    arguments
  let texts ← inputs name (a.operands.take 1)
  let ls := Letters.lines (texts.flatMap Prod.snd)
  let skips (letter : Char) : Nat := ((a.value? letter).bind Shell.Decimal.digits?).getD 0
  let key (l : List Char) : List Char :=
    let l := (List.range (skips 'f')).foldl
      (fun l _ => (l.dropWhile isGap).dropWhile (!isGap ·)) l
    let l := l.drop (skips 's')
    if a.has 'i' then l.map Char.toLower else l
  let gs := (groups (fun l m => key l == key m) ls).filter fun g =>
    (!a.has 'd' || decide (1 < g.2)) && (!a.has 'u' || g.2 == 1)
  let out := gs.map fun (l, n) =>
    if a.has 'c' then rightAligned 7 (Letters.ofNat n) ++ [' '] ++ l else l
  match a.operands[1]? with
  | some file =>
    if let some o ← overwrite file (Letters.unlines out) then
      refuse name (quoted file ++ ": ".toList ++ o.wording.toList)
  | none => sayLines name out
where
  /-- A blank between fields. -/
  isGap (c : Char) : Bool := c == ' ' || c == '\t'

/-- Lists put together position by position. The number bounds how many positions there are. -/
def transposed : Nat → List (List (List Char)) → List (List (List Char))
  | 0, _ => []
  | n + 1, columns =>
    if columns.all List.isEmpty then []
    else columns.map (fun c => c.headD []) :: transposed n (columns.map List.tail)

/-- Texts with delimiters between them, taken in turn. -/
def joinedBy (delimiters : List Char) : Nat → List (List Char) → List Char
  | _, [] => []
  | _, [t] => t
  | n, t :: rest =>
    let d := delimiters[n % max 1 delimiters.length]?
    t ++ d.toList ++ joinedBy delimiters (n + 1) rest

/-- Put lines of files together. -/
def paste : Tool := fun name arguments => do
  setStatus 0
  let a ← options name [⟨'s', "serial", false⟩, ⟨'d', "delimiters", true⟩] arguments
  let delimiters := (Shell.Printing.unescape ((a.value? 'd').getD ['\t'])).1
  let texts ← inputs name a.operands
  let columns := texts.map fun t => Letters.lines t.2
  if a.has 's' then sayLines name (columns.map (joinedBy delimiters 0))
  else
    let most := columns.foldl (fun n c => max n c.length) 0
    sayLines name ((transposed most columns).map (joinedBy delimiters 0))

/-- Pass standard input on, and write it to files. -/
def tee : Tool := fun name arguments => do
  setStatus 0
  let a ← options name [⟨'a', "append", false⟩, ⟨'i', "", false⟩] arguments
  let files ← a.operands.filterM fun file => do
    match ← overwrite file [] (a.has 'a') with
    | none => return true
    | some o =>
      warn name (quoted file ++ ": ".toList ++ o.wording.toList)
      setStatus 1
      return false
  let texts ← inputs name []
  let text := texts.flatMap Prod.snd
  files.forM fun file => do
    let _ ← overwrite file text (a.has 'a')
  say name text

/-! ### Counting -/

/-- A word in a text ends at a blank. -/
def isSpace (c : Char) : Bool := c == ' ' || (decide (9 ≤ c.toNat) && decide (c.toNat ≤ 13))

def wordCount (text : List Char) : Nat := ((text.splitOnP isSpace).filter (!·.isEmpty)).length

/-- The counts of a text: lines, words, characters, and the length of the longest line. -/
def counts (text : List Char) : List Nat :=
  [text.count '\n', wordCount text, text.length,
    (Letters.lines text).foldl (fun n l => max n l.length) 0]

/-- Count lines, words and characters. -/
def wc : Tool := fun name arguments => do
  setStatus 0
  let a ← options name
    [⟨'l', "lines", false⟩, ⟨'w', "words", false⟩, ⟨'c', "bytes", false⟩, ⟨'m', "chars", false⟩,
      ⟨'L', "max-line-length", false⟩] arguments
  let chosen : List Bool :=
    if a.options.isEmpty then [true, true, true, false]
    else [a.has 'l', a.has 'w', a.has 'c' || a.has 'm', a.has 'L']
  let pick (ns : List Nat) : List Nat := (ns.zip chosen).filterMap fun (n, yes) => if yes then some n else none
  let isPipe ← do
    let s ← Step.session
    let w ← Step.world
    pure (((s.channel? 0).bind fun c => w.channels[c]?).any fun c => match c.target with
      | .file _ => false
      | _ => true)
  let files := if a.operands.isEmpty then [['-']] else a.operands
  let found : List (List Char × Except Obstacle (List Nat)) ← files.mapM fun file => do
    return (file, (← input file).map counts)
  let all := found.filterMap fun t => t.2.toOption.map fun ns => (t.1, ns)
  let total := all.foldl (fun ns t => (ns.zip t.2).map fun (m, n) => m + n) [0, 0, 0, 0]
  let total := total.take 3 ++ [all.foldl (fun n t => max n ((t.2[3]?).getD 0)) 0]
  let columns := (chosen.filter id).length
  let size := (total[2]?).getD 0
  let reads := a.operands.isEmpty || a.operands.contains ['-']
  let width :=
    if a.operands.length ≤ 1 && columns = 1 then 1
    else if reads && isPipe then 7
    else (Letters.ofNat size).length
  let line (ns : List Nat) (title : List Char) : List Char :=
    [' '].intercalate ((pick ns).map fun n => rightAligned width (Letters.ofNat n)) ++
      (if title.isEmpty then [] else ' ' :: title)
  let titled := !a.operands.isEmpty
  found.forM fun
    | (file, .ok ns) => sayLines name [line ns (if titled then file else [])]
    | (file, .error o) => do
      warn name (quoted file ++ ": ".toList ++ o.wording.toList)
      setStatus 1
  if 1 < a.operands.length then sayLines name [line total "total".toList]

/-! ### Making lines -/

/-- A number with places after the point. -/
structure Tenths where
  /-- The number without its point. -/
  digits : Int
  /-- How many places come after the point. -/
  places : Nat

/-- The number that a text spells. -/
def Tenths.ofText? (text : List Char) : Option Tenths :=
  let (isNegative, body) := match text with
    | '-' :: rest => (true, rest)
    | '+' :: rest => (false, rest)
    | rest => (false, rest)
  let front := body.takeWhile (· ≠ '.')
  let back := (body.dropWhile (· ≠ '.')).drop 1
  if (front.isEmpty && back.isEmpty) || !front.all Char.isDigit || !back.all Char.isDigit then none
  else
    let n : Int := Shell.Decimal.natural (front ++ back)
    some ⟨if isNegative then -n else n, back.length⟩

/-- The number with so many places, without its point. -/
def Tenths.atPlaces (t : Tenths) (places : Nat) : Int := t.digits * Int.pow 10 (places - t.places)

/-- A number of so many places as text, at least so wide. -/
def placedText (places width : Nat) (n : Int) : List Char :=
  let ds := Shell.Printing.pointed n.natAbs places false
  let sign : List Char := if n < 0 then ['-'] else []
  sign ++ List.replicate (width - sign.length - ds.length) '0' ++ ds

/-- Numbers from one to another, at most so many. -/
def sequence (step last : Int) : Nat → Int → List Int
  | 0, _ => []
  | bound + 1, n =>
    if (0 ≤ step ∧ last < n) ∨ (step < 0 ∧ n < last) then []
    else n :: sequence step last bound (n + step)

def seqOptions : List Opt :=
  [⟨'s', "separator", true⟩, ⟨'w', "equal-width", false⟩, ⟨'f', "format", true⟩]

/-- The word is a number below zero. -/
def isNegativeNumber : List Char → Bool
  | '-' :: c :: _ => c.isDigit || c == '.'
  | _ => false

/-- Options of `seq` and its numbers, which may be negative. -/
def seqArguments (name : List Char) (arguments : List (List Char)) : Step Arguments :=
  if arguments.head?.any isNegativeNumber then return { operands := arguments }
  else options name seqOptions arguments true

/-- Print numbers from one to another. -/
def seq : Tool := fun name arguments => do
  setStatus 0
  let a ← seqArguments name arguments
  if a.operands.isEmpty then misused name "missing operand".toList
  if let some w := a.operands[3]? then misused name ("extra operand ".toList ++ inQuotes w)
  let ns ← a.operands.mapM fun w => do
    match Tenths.ofText? w with
    | some n => pure n
    | none => misused name ("invalid floating point argument: ".toList ++ inQuotes w)
  let places := ns.foldl (fun p n => max p n.places) 0
  let at_ (n : Tenths) : Int := n.atPlaces places
  let one : Int := Int.pow 10 places
  let (first, step, last) := match ns with
    | [l] => (one, one, at_ l)
    | [f, l] => (at_ f, one, at_ l)
    | [f, s, l] => (at_ f, at_ s, at_ l)
    | _ => (one, one, 0)
  if step = 0 then misused name ("invalid Zero increment value: ".toList ++ inQuotes (a.operands[1]?.getD []))
  let values := sequence step last 1000000 first
  let width := if a.has 'w' then
      max (placedText places 0 first).length (placedText places 0 last).length
    else 0
  let shown := match a.value? 'f' with
    | some format => values.map fun n =>
      (Shell.Printing.printf format [placedText places 0 n]).printed.reverse
    | none => values.map (placedText places width)
  if !shown.isEmpty then
    say name (((a.value? 's').getD ['\n']).intercalate shown ++ ['\n'])

/-- Print a line again and again, until nobody reads it. -/
def yes : Tool := fun name arguments => do
  let line := (if arguments.isEmpty then ['y'] else Letters.spaced arguments) ++ ['\n']
  let times := World.pipeLimit / line.length + 1
  let fault ← Step.put 1 (List.replicate times line).flatten
  match fault with
  | some f => refuse name ("standard output: ".toList ++ f.wording.toList)
  | none => throw (.signalled Signal.pipe)

example : headOf ⟨true, some '-', 1⟩ "a\nb\nc".toList = "a\nb\n".toList := by decide
example : counts "a b\nc".toList = [1, 3, 5, 3] := by decide

end Tool

end BuildPlan
