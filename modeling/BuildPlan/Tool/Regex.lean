import BuildPlan.Shell.Decimal
import BuildPlan.Shell.Pattern

/-!
# Regular expressions

* `Regex.read` reads a regular expression in one of two notations: in the basic one the characters that
  group and repeat have a backslash before them, in the extended one they have none.
* `Regex.find?` finds the first place in a text where an expression fits, and there the longest stretch.

An expression is followed through all the ways in which it can fit, so the longest is known at the end.
-/

namespace BuildPlan

inductive Regex where
  | empty
  | char (c : Char)
  | any
  /-- A character of a set, or outside it. -/
  | oneOf (outside : Bool) (members : List Shell.Pattern.Member)
  | atStart
  | atEnd
  /-- The edge of a word: its start, its end, or either. -/
  | edge (start ends : Bool)
  /-- The inside of a word. -/
  | noEdge
  | group (n : Nat) (r : Regex)
  /-- What a group has fitted. -/
  | again (n : Nat)
  | sequence (a b : Regex)
  | either (a b : Regex)
  /-- So many times at least and at most. -/
  | repeated (r : Regex) (least : Nat) (most : Option Nat)

namespace Regex

/-! ### Reading -/

/-- A place in an expression: the text left, and how many groups there have been. -/
structure Place where
  rest : List Char
  /-- How many groups have been opened. -/
  groups : Nat := 0

abbrev Reading := StateT Place (Except String)

/-- Drop a number of characters. -/
def drop (n : Nat) : Reading Unit := modify fun p => { p with rest := p.rest.drop n }

/-- The numbers between braces after the opening one, and what comes after the closing one. -/
def interval (extended : Bool) (cs : List Char) : Option (Nat × Option Nat × List Char) :=
  let low := cs.takeWhile Char.isDigit
  let rest := cs.dropWhile Char.isDigit
  let closing : List Char := if extended then ['\x7d'] else ['\\', '\x7d']
  match rest with
  | ',' :: rest =>
    let high := rest.takeWhile Char.isDigit
    (closing.isPrefixOf? (rest.dropWhile Char.isDigit)).map fun after =>
      (Shell.Decimal.natural low, if high.isEmpty then none else some (Shell.Decimal.natural high), after)
  | rest =>
    if low.isEmpty then none
    else
      (closing.isPrefixOf? rest).map fun after =>
        (Shell.Decimal.natural low, some (Shell.Decimal.natural low), after)

/-- A bracket expression after its opening bracket. -/
def bracket (cs : List Char) : Option (Regex × List Char) :=
  let (outside, cs) := match cs with
    | '^' :: rest => (true, rest)
    | cs => (false, cs)
  (Shell.Pattern.members (cs.length + 1) false (Shell.Pattern.plain cs)).map fun (ms, left) =>
    (.oneOf outside ms, left.map Prod.snd)

/-- How often an expression is repeated, as the text after it says, and what comes after that. -/
def repetition (extended : Bool) (cs : List Char) : Option (Nat × Option Nat × List Char) :=
  match extended, cs with
  | _, '*' :: rest => some (0, none, rest)
  | true, '+' :: rest => some (1, none, rest)
  | true, '?' :: rest => some (0, some 1, rest)
  | true, '\x7b' :: rest => interval true rest
  | false, '\\' :: '+' :: rest => some (1, none, rest)
  | false, '\\' :: '?' :: rest => some (0, some 1, rest)
  | false, '\\' :: '\x7b' :: rest => interval false rest
  | _, _ => none

/-- The text has braces that close. -/
def hasClosing : List Char → Bool
  | '\\' :: '\x7d' :: _ => true
  | _ :: rest => hasClosing rest
  | [] => false

/-- The complaint about numbers between braces that are none. -/
def intervalFault : String := "Invalid content of \\\x7b\\\x7d"

/-- Read the repetitions after an expression. The number bounds how many there are. -/
def repetitions (extended : Bool) : Nat → Regex → Reading Regex
  | 0, r => return r
  | bound + 1, r => do
    match repetition extended (← get).rest with
    | some (least, most, rest) =>
      if most.any fun n => decide (n < least) then throw intervalFault
      modify fun p => { p with rest := rest }
      repetitions extended bound (.repeated r least most)
    | none =>
      match extended, (← get).rest with
      | false, '\\' :: '\x7b' :: rest =>
        throw (if hasClosing rest then intervalFault else "Unmatched \\\x7b")
      | _, _ => return r

/-- The names of classes of characters. -/
def classNames : List String :=
  ["alnum", "alpha", "blank", "cntrl", "digit", "graph", "lower", "print", "punct", "space", "upper",
    "xdigit"]

/-- Members of a set that are none: a class that does not exist, or a range that ends before it
starts. -/
def memberFault? (ms : List Shell.Pattern.Member) : Option String :=
  ms.findSome? fun
    | .classOf name =>
      if classNames.contains (String.ofList name) then none else some "Invalid character class name"
    | .range low high => if high.toNat < low.toNat then some "Invalid range end" else none

/-- A character after a backslash that means something in both notations. -/
def escaped (c : Char) : Regex :=
  match c with
  | 'w' => .oneOf false [.classOf "alnum".toList, .range '_' '_']
  | 'W' => .oneOf true [.classOf "alnum".toList, .range '_' '_']
  | 's' => .oneOf false [.classOf "space".toList]
  | 'S' => .oneOf true [.classOf "space".toList]
  | 'b' => .edge true true
  | '<' => .edge true false
  | '>' => .edge false true
  | 'B' => .noEdge
  | 'n' => .char '\n'
  | 't' => .char '\t'
  | c => if c.isDigit && c ≠ '0' then .again (c.toNat - '0'.toNat) else .char c

/-- The text ends a branch: it is at its end, or at a bar or a closing parenthesis. -/
def endsBranch (extended : Bool) (cs : List Char) : Bool :=
  match extended, cs with
  | _, [] => true
  | true, c :: _ => c == '|' || c == ')'
  | false, '\\' :: c :: _ => c == '|' || c == ')'
  | false, _ => false

mutual

/-- Read branches with bars between them. -/
def branches (extended : Bool) : Nat → Nat → Reading Regex
  | 0, _ => throw "too big"
  | fuel + 1, depth => do
    let a ← branch extended fuel depth true
    match extended, (← get).rest with
    | true, '|' :: _ =>
      drop 1
      return .either a (← branches extended fuel depth)
    | false, '\\' :: '|' :: _ =>
      drop 2
      return .either a (← branches extended fuel depth)
    | _, _ => return a

/-- Read a branch. The flag says that nothing has been read of it. -/
def branch (extended : Bool) : Nat → Nat → Bool → Reading Regex
  | 0, _, _ => throw "too big"
  | fuel + 1, depth, isFirst => do
    let cs := (← get).rest
    if endsBranch extended cs && !(extended && depth = 0 && cs.head? = some ')') then return .empty
    else
      let r ← atom extended fuel depth isFirst
      let isAnchor := !extended && r matches .atStart
      let r ← if isAnchor then pure r else repetitions extended cs.length r
      return .sequence r (← branch extended fuel depth isAnchor)

def atom (extended : Bool) : Nat → Nat → Bool → Reading Regex
  | 0, _, _ => throw "too big"
  | fuel + 1, depth, isFirst => do
    let p ← get
    let group (n : Nat) : Reading Regex := do
      let number := p.groups + 1
      set { p with rest := p.rest.drop n, groups := number }
      let r ← branches extended fuel (depth + 1)
      match extended, (← get).rest with
      | true, ')' :: _ =>
        drop 1
        return .group number r
      | false, '\\' :: ')' :: _ =>
        drop 2
        return .group number r
      | _, _ => throw "Unmatched ( or \\("
    match p.rest with
    | [] => return .empty
    | '.' :: _ =>
      drop 1
      return .any
    | '[' :: rest =>
      match bracket rest with
      | some (r, left) =>
        if let .oneOf _ ms := r then
          if let some why := memberFault? ms then throw why
        set { p with rest := left }
        return r
      | none => throw "Unmatched [, [^, [:, [., or [="
    | '(' :: _ =>
      if extended then group 1
      else
        drop 1
        return .char '('
    | '^' :: _ =>
      drop 1
      return if extended || isFirst then .atStart else .char '^'
    | '$' :: rest =>
      drop 1
      return if extended || endsBranch extended rest then .atEnd else .char '$'
    | '*' :: _ =>
      drop 1
      return .char '*'
    | '\\' :: '(' :: _ =>
      if extended then
        drop 2
        return .char '('
      else group 2
    | '\\' :: c :: _ =>
      drop 2
      match escaped c with
      | .again n => if p.groups < n then throw "Invalid back reference" else return .again n
      | r => return r
    | ['\\'] => throw "Trailing backslash"
    | c :: _ =>
      drop 1
      return .char c

end

def read (extended : Bool) (text : List Char) : Except String Regex := do
  let (r, p) ← (branches extended (4 * text.length + 8) 0).run { rest := text }
  if p.rest.isEmpty then return r
  else throw "Unmatched ) or \\)"

/-! ### Fitting -/

/-- How letters are compared, and what the text is. -/
structure Subject where
  text : Array Char
  /-- Small and capital letters are the same. -/
  ignoresCase : Bool := false

/-- A way in which an expression fits up to a position. -/
structure Way where
  position : Nat
  /-- Where groups start and end. -/
  groups : List (Nat × Nat × Nat) := []
deriving DecidableEq

/-- The first way to each position. -/
def distinct (ws : List Way) : List Way :=
  (ws.foldl (fun kept w => if kept.any fun v => v.position == w.position then kept else w :: kept)
    []).reverse

def isWordChar (c : Char) : Bool := c.isAlphanum || c == '_'

/-- The characters before and after a position are in a word. -/
def around (s : Subject) (n : Nat) : Bool × Bool :=
  ((if n = 0 then none else s.text[n - 1]?).any isWordChar, s.text[n]?.any isWordChar)

/-- Two characters are the same for a subject. -/
def Subject.same (s : Subject) (a b : Char) : Bool :=
  a == b || (s.ignoresCase && a.toLower == b.toLower)

/-- A set has a character for a subject. -/
def Subject.has (s : Subject) (ms : List Shell.Pattern.Member) (c : Char) : Bool :=
  ms.any fun m => m.has c || (s.ignoresCase && (m.has c.toLower || m.has c.toUpper))

/-- Repeat a step as long as it leads on, longer ways first. The numbers say how often at least and at
most; the first bounds how often at all. -/
def repeatedly (step : Way → List Way) : Nat → Nat → Option Nat → Way → List Way
  | 0, _, _, w => [w]
  | bound + 1, least, most, w =>
    if most = some 0 then [w]
    else
      let next := (step w).filter fun v => decide (0 < least) || v.position != w.position
      let longer := next.flatMap (repeatedly step bound (least - 1) (most.map (· - 1)))
      distinct (if least = 0 then longer ++ [w] else longer)

/-- The ways in which an expression fits from a way on. -/
def ways (s : Subject) : Regex → Way → List Way
  | .empty, w => [w]
  | .char c, w =>
    if s.text[w.position]?.any (s.same c) then [{ w with position := w.position + 1 }] else []
  | .any, w => if w.position < s.text.size then [{ w with position := w.position + 1 }] else []
  | .oneOf outside ms, w =>
    if s.text[w.position]?.any fun c => s.has ms c != outside then
      [{ w with position := w.position + 1 }]
    else []
  | .atStart, w => if w.position = 0 then [w] else []
  | .atEnd, w => if w.position = s.text.size then [w] else []
  | .edge start ends, w =>
    let (before, after) := around s w.position
    if (start && !before && after) || (ends && before && !after) then [w] else []
  | .noEdge, w =>
    let (before, after) := around s w.position
    if before == after then [w] else []
  | .group n r, w =>
    (ways s r w).map fun v =>
      { v with groups := (n, w.position, v.position) :: v.groups.filter fun g => g.1 ≠ n }
  | .again n, w =>
    match w.groups.lookup n with
    | none => []
    | some (a, b) =>
      let size := b - a
      let same := (List.range size).all fun i =>
        match s.text[a + i]?, s.text[w.position + i]? with
        | some c, some d => s.same c d
        | _, _ => false
      if same then [{ w with position := w.position + size }] else []
  | .sequence a b, w => distinct ((ways s a w).flatMap (ways s b))
  | .either a b, w => distinct (ways s a w ++ ways s b w)
  | .repeated r least most, w => repeatedly (ways s r) (s.text.size + least + 1) least most w

def longest? (s : Subject) (r : Regex) (n : Nat) : Option Way :=
  (ways s r ⟨n, []⟩).foldl
    (fun best w => match best with
      | none => some w
      | some b => if b.position < w.position then some w else best) none

/-- Where an expression fits: the start, and the way from there. -/
structure Fit where
  start : Nat
  way : Way

/-- The first place from a position on where an expression fits. -/
def find? (s : Subject) (r : Regex) (start : Nat) : Option Fit :=
  (List.range (s.text.size + 1 - start)).findSome? fun i =>
    (longest? s r (start + i)).map (Fit.mk (start + i))

/-- The text between two positions. -/
def Subject.slice (s : Subject) (a b : Nat) : List Char := (s.text.extract a b).toList

/-- The text that a group has fitted. -/
def Fit.group (f : Fit) (s : Subject) (n : Nat) : List Char :=
  if n = 0 then s.slice f.start f.way.position
  else
    match f.way.groups.lookup n with
    | some (a, b) => s.slice a b
    | none => []

/-- Where an expression fits in a text, and what its first group fits, for the examples. -/
private def shown (extended : Bool) (expression text : String) : Option (String × String) :=
  match read extended expression.toList with
  | .ok r =>
    let s : Subject := { text := text.toList.toArray }
    (find? s r 0).map fun f => (String.ofList (f.group s 0), String.ofList (f.group s 1))
  | .error _ => none

example : shown false "l*o\\(.*\\)d$" "hello world" = some ("llo world", " worl") := by decide +kernel
example : shown true "(ab|a)(c|bcd)?" "xabcd" = some ("abcd", "a") := by decide +kernel
example : shown true "[0-9]+\\b" "v12 34" = some ("12", "") := by decide +kernel

end Regex

end BuildPlan
