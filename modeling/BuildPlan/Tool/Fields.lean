import BuildPlan.Tool.Lines

/-!
# Tools for parts of lines

`cut`, `tr`, `sort` and `comm`.

* `Tool.Ranges` are the positions that `cut` keeps.
* `Tool.characterSet` spells out a set of `tr`.
* `Tool.SortKey` is what `sort` compares of a line.
-/

namespace BuildPlan

open Shell (Step)

namespace Tool

/-! ### Cutting -/

/-- Positions, counted from one: from each first one to each last one. -/
abbrev Ranges := List (Nat × Option Nat)

/-- The position is among those. -/
def Ranges.has (rs : Ranges) (n : Nat) : Bool :=
  rs.any fun (low, high) => decide (low ≤ n) && high.all fun h => decide (n ≤ h)

/-- The positions that a text spells. -/
def Ranges.ofText? (text : List Char) : Option Ranges :=
  ((text.splitOnP fun c => c == ',' || c == ' ').mapM fun part =>
    let low := part.takeWhile (· ≠ '-')
    match part.dropWhile (· ≠ '-') with
    | [] => (Shell.Decimal.digits? low).bind fun n => if n = 0 then none else some (n, some n)
    | _ :: high =>
      if low.isEmpty && high.isEmpty then none
      else
        let first := if low.isEmpty then some 1 else Shell.Decimal.digits? low
        match first with
        | none => none
        | some m =>
          if high.isEmpty then some (m, none)
          else (Shell.Decimal.digits? high).bind fun n => if n < m then none else some (m, some n))

def Ranges.keep {α : Type} (rs : Ranges) (complement : Bool) (xs : List α) : List α :=
  (xs.zipIdx 1).filterMap fun (x, n) => if rs.has n != complement then some x else none

/-- Keep parts of lines. -/
def cut : Tool := fun name arguments => do
  setStatus 0
  let a ← options name
    [⟨'b', "bytes", true⟩, ⟨'c', "characters", true⟩, ⟨'f', "fields", true⟩, ⟨'d', "delimiter", true⟩,
      ⟨'s', "only-delimited", false⟩, ⟨'n', "", false⟩, ⟨'C', "complement", false⟩,
      ⟨'O', "output-delimiter", true⟩] arguments
  let chosen := a.options.filter fun o => o.1 == 'b' || o.1 == 'c' || o.1 == 'f'
  match chosen with
  | [] => misused name "you must specify a list of bytes, characters, or fields".toList
  | _ :: _ :: _ => misused name "only one list may be specified".toList
  | [(letter, list)] =>
    let isFields := letter == 'f'
    if let some d := a.value? 'd' then
      if d.length > 1 then misused name "the delimiter must be a single character".toList
      if !isFields then
        misused name "an input delimiter may be specified only when operating on fields".toList
    match Ranges.ofText? list with
    | none =>
      misused name ((if isFields then "invalid field value " else "invalid byte or character position ").toList ++
        inQuotes list)
    | some ranges =>
      let delimiter := ((a.value? 'd').getD ['\t']).headD '\x00'
      let between := (a.value? 'O').getD (if isFields then [delimiter] else [])
      let texts ← inputs name a.operands
      let ls := texts.flatMap fun t => Letters.lines t.2
      sayLines name (ls.filterMap fun l =>
        if !isFields then some (ranges.keep (a.has 'C') l)
        else if !l.contains delimiter then (if a.has 's' then none else some l)
        else some (between.intercalate (ranges.keep (a.has 'C') (l.splitOn delimiter))))

/-! ### Translating -/

def allCharacters : List Char := (List.range 256).map Char.ofNat

/-- The characters of a set of `tr`. The last argument says how long the set has to be, for a repeat
that fills it. The number bounds the length of the text. -/
def characterSetWithin : Nat → List Char → List Char
  | 0, _ => []
  | _ + 1, [] => []
  | bound + 1, cs =>
    let ofClass : Option (List Char × List Char) := match cs with
      | '[' :: ':' :: rest =>
        let name := rest.takeWhile (· ≠ ':')
        match rest.drop name.length with
        | ':' :: ']' :: after =>
          some (allCharacters.filter (Shell.Pattern.inClass name), after)
        | _ => none
      | '[' :: '=' :: c :: '=' :: ']' :: after => some ([c], after)
      | '[' :: c :: '*' :: rest =>
        let digits := rest.takeWhile Char.isDigit
        match rest.drop digits.length with
        | ']' :: after =>
          some (List.replicate (if digits.isEmpty then 256 else Shell.Decimal.natural digits) c, after)
        | _ => none
      | _ => none
    match ofClass with
    | some (members, after) => members ++ characterSetWithin bound after
    | none =>
      let one (cs : List Char) : Char × List Char := match cs with
        | '\\' :: rest =>
          if rest.isEmpty then ('\\', [])
          else
            let digits := (rest.take 3).takeWhile Shell.Printing.isOctal
            if !digits.isEmpty then (Shell.Printing.octal digits, rest.drop digits.length)
            else
              let c := rest.headD '\\'
              (if c = 'e' then c else (Shell.Printing.letterEscape c).getD c, rest.drop 1)
        | c :: rest => (c, rest)
        | [] => ('\x00', [])
      let (low, rest) := one cs
      match rest with
      | '-' :: h :: more =>
        let (high, after) := one (h :: more)
        ((List.range (high.toNat + 1 - low.toNat)).map fun i => Char.ofNat (low.toNat + i)) ++
          characterSetWithin bound after
      | _ => low :: characterSetWithin bound rest

def characterSet (text : List Char) : List Char := characterSetWithin (text.length + 1) text

/-- A text in which neighbours that are the same are one, where a set has them. -/
def squeeze (set : List Char) : List Char → List Char
  | a :: b :: rest =>
    if a = b && set.contains a then squeeze set (b :: rest) else a :: squeeze set (b :: rest)
  | cs => cs

/-- Replace, delete or squeeze characters. -/
def tr : Tool := fun name arguments => do
  setStatus 0
  let a ← options name
    [⟨'c', "complement", false⟩, ⟨'C', "", false⟩, ⟨'d', "delete", false⟩,
      ⟨'s', "squeeze-repeats", false⟩, ⟨'t', "truncate-set1", false⟩] arguments true
  let deletes := a.has 'd'
  let squeezes := a.has 's'
  match a.operands with
  | [] => misused name "missing operand".toList
  | first :: more =>
    if more.isEmpty && !deletes && !squeezes then
      warn name ("missing operand after ".toList ++ inQuotes first)
      Step.putError "Two strings must be given when translating.\n".toList
      hint name
      finish 1
    if more.isEmpty && deletes && squeezes then
      warn name ("missing operand after ".toList ++ inQuotes first)
      Step.putError "Two strings must be given when both deleting and squeezing repeats.\n".toList
      hint name
      finish 1
    if let some extra := (if deletes && !squeezes then more.head? else more[1]?) then
      warn name ("extra operand ".toList ++ inQuotes extra)
      if deletes && !squeezes then
        Step.putError "Only one string may be given when deleting without squeezing repeats.\n".toList
      hint name
      finish 1
    let set1 := characterSet first
    let set1 := if a.has 'c' || a.has 'C' then allCharacters.filter (!set1.contains ·) else set1
    let set2 := characterSet (more.headD [])
    if !deletes && !more.isEmpty && set2.isEmpty then
      refuse name "when not truncating set1, string2 must be non-empty".toList
    let texts ← inputs name []
    let text := texts.flatMap Prod.snd
    if deletes then
      let left := text.filter (!set1.contains ·)
      say name (if squeezes then squeeze set2 left else left)
    else if more.isEmpty then say name (squeeze set1 text)
    else
      let set1 := if a.has 't' then set1.take set2.length else set1
      let last := set2.getLast?.getD '\x00'
      let table := (set1.zip (set2 ++ List.replicate (set1.length - set2.length) last)).reverse
      let translated := text.map fun c => (table.lookup c).getD c
      say name (if squeezes then squeeze set2 translated else translated)

/-! ### Sorting -/

/-- How a key is compared. -/
structure SortOrder where
  isNumeric : Bool := false
  isReversed : Bool := false
  /-- Small letters as capital ones. -/
  foldsCase : Bool := false
  /-- Without the blanks at the start. -/
  skipsBlanks : Bool := false
  /-- Only letters, digits and blanks. -/
  isDictionary : Bool := false
  /-- By the numbers in versions. -/
  isVersion : Bool := false
deriving DecidableEq

/-- What is compared of a line: from a place to a place, each a field and a character in it. -/
structure SortKey where
  /-- The first field and the character in it. -/
  first : Nat × Nat := (1, 1)
  /-- The last field and the character in it, where zero is its end. -/
  last : Option (Nat × Nat) := none
  order : SortOrder := {}

/-- An order with a letter taken into account. -/
def SortOrder.withLetter (o : SortOrder) (c : Char) : Option SortOrder :=
  match c with
  | 'n' => some { o with isNumeric := true }
  | 'g' => some { o with isNumeric := true }
  | 'h' => some { o with isNumeric := true }
  | 'r' => some { o with isReversed := true }
  | 'f' => some { o with foldsCase := true }
  | 'b' => some { o with skipsBlanks := true }
  | 'd' => some { o with isDictionary := true }
  | 'V' => some { o with isVersion := true }
  | 'i' => some o
  | 'M' => some o
  | _ => none

/-- A place in a key, and the letters after it. -/
def keyPlace (text : List Char) : Option ((Nat × Option Nat) × List Char) :=
  let field := text.takeWhile Char.isDigit
  if field.isEmpty then none
  else
    match text.drop field.length with
    | '.' :: rest =>
      let character := rest.takeWhile Char.isDigit
      some ((Shell.Decimal.natural field, some (Shell.Decimal.natural character)),
        rest.drop character.length)
    | rest => some ((Shell.Decimal.natural field, none), rest)

def SortKey.ofText? (text : List Char) : Option SortKey :=
  let start := text.takeWhile (· ≠ ',')
  match keyPlace start with
  | none => none
  | some ((field, character), letters) =>
    let order := letters.foldlM SortOrder.withLetter {}
    match order, text.drop start.length with
    | none, _ => none
    | some o, [] => some { first := (field, character.getD 1), order := o }
    | some o, _ :: rest =>
      match keyPlace rest with
      | none => none
      | some ((field2, character2), letters2) =>
        (letters2.foldlM SortOrder.withLetter o).map fun o =>
          { first := (field, character.getD 1), last := some (field2, character2.getD 0), order := o }

/-- The fields of a line. Without a separator a field starts with the blanks before it. -/
def sortFields (separator : Option Char) (line : List Char) : List (List Char) :=
  match separator with
  | some c => line.splitOn c
  | none => go (line.length + 1) line
where
  /-- The fields of a line, at most so many. -/
  go : Nat → List Char → List (List Char)
    | 0, _ => []
    | _ + 1, [] => []
    | bound + 1, cs =>
      let isGap (c : Char) : Bool := c == ' ' || c == '\t'
      let blanks := cs.takeWhile isGap
      let rest := cs.dropWhile isGap
      let body := rest.takeWhile (!isGap ·)
      (blanks ++ body) :: go bound (rest.dropWhile (!isGap ·))

def SortKey.of (k : SortKey) (separator : Option Char) (line : List Char) : List Char :=
  let fs := sortFields separator line
  let between : List Char := match separator with
    | some c => [c]
    | none => []
  let isGap (c : Char) : Bool := c == ' ' || c == '\t'
  let cutStart (f : List Char) (n : Nat) : List Char :=
    ((if k.order.skipsBlanks then f.dropWhile isGap else f).drop (n - 1))
  let (f1, c1) := k.first
  match k.last with
  | none =>
    match fs.drop (f1 - 1) with
    | [] => []
    | f :: rest => between.intercalate (cutStart f c1 :: rest)
  | some (f2, c2) =>
    let inside := (fs.take f2).drop (f1 - 1)
    match inside with
    | [] => []
    | [f] =>
      let kept := if c2 = 0 || fs.length < f2 then f else f.take c2
      cutStart kept c1
    | f :: rest =>
      let lastOne := rest.getLast?.getD []
      let kept := if c2 = 0 || fs.length < f2 then lastOne else lastOne.take c2
      between.intercalate (cutStart f c1 :: rest.dropLast ++ [kept])

/-- The number at the start of a text, in thousandths of thousandths. -/
def numericValue (text : List Char) : Int :=
  match Shell.Printing.fraction (text.dropWhile fun c => c == ' ' || c == '\t') with
  | some (f, _) =>
    let n : Int := Shell.Printing.scaled f 9
    if f.isNegative then -n else n
  | none => 0

/-- A version cut into texts and numbers. The number bounds how many there are. -/
def versionParts : Nat → List Char → List (List Char × Nat)
  | 0, _ => []
  | _ + 1, [] => []
  | bound + 1, cs =>
    let text := cs.takeWhile (!Char.isDigit ·)
    let rest := cs.drop text.length
    let digits := rest.takeWhile Char.isDigit
    (text, Shell.Decimal.natural digits) :: versionParts bound (rest.drop digits.length)

def compareTexts : List Char → List Char → Ordering
  | [], [] => .eq
  | [], _ :: _ => .lt
  | _ :: _, [] => .gt
  | a :: as, b :: bs => if a = b then compareTexts as bs else compare a.toNat b.toNat

def compareVersions : List (List Char × Nat) → List (List Char × Nat) → Ordering
  | [], [] => .eq
  | [], _ :: _ => .lt
  | _ :: _, [] => .gt
  | (s, m) :: as, (t, n) :: bs =>
    ((compareTexts s t).then (compare m n)).then (compareVersions as bs)

def SortOrder.compare (o : SortOrder) (a b : List Char) : Ordering :=
  let isGap (c : Char) : Bool := c == ' ' || c == '\t'
  let prepared (t : List Char) : List Char :=
    let t := if o.skipsBlanks then t.dropWhile isGap else t
    let t := if o.isDictionary then t.filter fun c => c.isAlphanum || isGap c else t
    if o.foldsCase then t.map Char.toUpper else t
  let result :=
    if o.isNumeric then Ord.compare (numericValue a) (numericValue b)
    else if o.isVersion then
      compareVersions (versionParts (a.length + 1) a) (versionParts (b.length + 1) b)
    else compareTexts (prepared a) (prepared b)
  if o.isReversed then result.swap else result

def sort : Tool := fun name arguments => do
  setStatus 0
  let a ← options name
    [⟨'n', "numeric-sort", false⟩, ⟨'g', "general-numeric-sort", false⟩,
      ⟨'h', "human-numeric-sort", false⟩, ⟨'r', "reverse", false⟩, ⟨'u', "unique", false⟩,
      ⟨'f', "ignore-case", false⟩, ⟨'b', "ignore-leading-blanks", false⟩,
      ⟨'d', "dictionary-order", false⟩, ⟨'V', "version-sort", false⟩, ⟨'i', "", false⟩,
      ⟨'s', "stable", false⟩, ⟨'m', "merge", false⟩, ⟨'c', "check", false⟩, ⟨'C', "", false⟩,
      ⟨'k', "key", true⟩, ⟨'t', "field-separator", true⟩, ⟨'o', "output", true⟩] arguments false 2
  let global := (a.options.map Prod.fst).foldl (fun o c => (o.withLetter c).getD o) ({} : SortOrder)
  let separator := (a.value? 't').bind List.head?
  let keys ← (a.values 'k').mapM fun text => do
    match SortKey.ofText? text with
    | some k =>
      if k.first.1 = 0 then
        refuse name ("-: invalid field specification ".toList ++ inQuotes text) 2
      else pure (if k.order = {} then { k with order := global } else k)
    | none => refuse name ("invalid number at field start: invalid count at start of ".toList ++ inQuotes text) 2
  let files := if a.operands.isEmpty then [['-']] else a.operands
  let texts ← files.mapM fun file => do
    match ← input file with
    | .ok text => pure text
    | .error o =>
      let why := if o = .isDirectory then "read failed: " else "cannot read: "
      refuse name (why.toList ++ quoted file ++ ": ".toList ++ o.wording.toList) 2
  let ls := texts.flatMap Letters.lines
  let byKeys (x y : List Char) : Ordering :=
    if keys.isEmpty then global.compare x y
    else keys.foldl (fun o k => o.then (k.order.compare (k.of separator x) (k.of separator y))) .eq
  let last (x y : List Char) : Ordering :=
    if a.has 's' || a.has 'u' || (keys.isEmpty && global = {}) then .eq
    else if global.isReversed then (compareTexts x y).swap else compareTexts x y
  let order (x y : List Char) : Ordering := (byKeys x y).then (last x y)
  if a.has 'c' || a.has 'C' then
    let bad := (ls.zip (ls.drop 1)).zipIdx.find? fun ((x, y), _) =>
      order x y == .gt || (a.has 'u' && order x y == .eq)
    match bad with
    | none => return
    | some ((_, y), n) =>
      if a.has 'c' then
        Step.putError (name ++ ": ".toList ++ files.headD [] ++ [':'] ++ Letters.ofNat (n + 2) ++
          ": disorder: ".toList ++ y ++ ['\n'])
      finish 1
  else
    let sorted := ls.mergeSort fun x y => order x y != .gt
    let sorted := if a.has 'u' then
        (groups (fun x y => byKeys x y == .eq) sorted).map Prod.fst
      else sorted
    match a.value? 'o' with
    | some file =>
      if let some o ← overwrite file (Letters.unlines sorted) then
        refuse name ("open failed: ".toList ++ quoted file ++ ": ".toList ++ o.wording.toList) 2
    | none => sayLines name sorted

/-! ### Comparing -/

/-- Two sorted lists merged: what only the first has, what only the second has, and what both have. -/
def merged : List (List Char) → List (List Char) → List (Nat × List Char)
  | [], ys => ys.map fun y => (2, y)
  | xs, [] => xs.map fun x => (1, x)
  | x :: xs, y :: ys =>
    match compareTexts x y with
    | .lt => (1, x) :: merged xs (y :: ys)
    | .gt => (2, y) :: merged (x :: xs) ys
    | .eq => (3, x) :: merged xs ys
termination_by xs ys => xs.length + ys.length

/-- Print what two sorted files have each and have both. -/
def comm : Tool := fun name arguments => do
  setStatus 0
  let a ← options name (letters "123") arguments
  match a.operands with
  | [f, g] =>
    let texts ← inputs name [f, g]
    match texts with
    | [(_, x), (_, y)] =>
      let tabs (n : Nat) : Nat :=
        ((if n > 1 && !a.has '1' then 1 else 0) + (if n > 2 && !a.has '2' then 1 else 0))
      sayLines name ((merged (Letters.lines x) (Letters.lines y)).filterMap fun (n, l) =>
        let letter := if n = 1 then '1' else if n = 2 then '2' else '3'
        if a.has letter then none else some (List.replicate (tabs n) '\t' ++ l))
    | _ => return
  | [] => misused name "missing operand".toList
  | [f] => misused name ("missing operand after ".toList ++ inQuotes f)
  | _ :: _ :: f :: _ => misused name ("extra operand ".toList ++ inQuotes f)

example : characterSet "a-c[:digit:]\\n".toList = "abc0123456789\n".toList := by decide +kernel
example : (Ranges.ofText? "2-3,5-".toList).map (fun r => r.keep false "abcdef".toList) =
    some "bcef".toList := by decide +kernel

end Tool

end BuildPlan
