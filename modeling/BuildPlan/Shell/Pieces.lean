import BuildPlan.Shell.Source

/-!
# Reading the words of a script

A word is read piece by piece. What a character means depends on where it stands: bare, between double
quotes, in a here-document, after the selection of a parameter, or in an expression. `Context` says
which.

* `Pieces.read` reads the pieces of a word up to what ends it.
* `Pieces.dollar` reads what a dollar sign starts, `Pieces.selected` the rest of a parameter in braces,
  and `Pieces.backQuoted` the source between back quotes.

The readers take `nested`, which reads a script inside a word; its flag says that a closing parenthesis
ends that script. They also take a bound on their depth. The length of the text is always enough.
-/

namespace BuildPlan

namespace Shell

structure Context where
  /-- Between double quotes, or as if it were. -/
  quoted : Bool := false
  /-- After the selection of a parameter, where a closing brace ends the word. -/
  braces : Bool := false
  /-- In the text of a here-document, where double quotes stand for themselves. -/
  document : Bool := false
  /-- In an expression, where parentheses count. -/
  expression : Bool := false
  /-- In the mark of a here-document, where nothing is replaced. -/
  mark : Bool := false

namespace Context

def quotes (at_ : Context) : Bool := at_.quoted || at_.expression

/-- The characters that end a bare word. -/
def separators : List Char := [' ', '\t', ';', '&', '|', '<', '>', '(', ')']

/-- Double quotes mean something here. -/
def hasDoubleQuotes (at_ : Context) : Bool :=
  at_.braces || !(at_.document || at_.expression)

/-- The character stands for itself here, and counts no line. -/
def isOrdinary (at_ : Context) (c : Char) : Bool :=
  match c with
  | '\n' => false
  | '\\' => false
  | '$' => at_.mark
  | '\x60' => at_.mark
  | '"' => !at_.hasDoubleQuotes
  | '\'' => at_.quotes
  | '\x7d' => !at_.braces
  | c =>
    if at_.expression then c ≠ '(' && c ≠ ')'
    else at_.quoted || at_.braces || !separators.contains c

/-- A backslash before the character quotes it, rather than standing for itself. -/
def isEscaped (at_ : Context) (c : Char) : Bool :=
  !at_.quotes ||
    match c with
    | '\\' => true
    | '\x60' => true
    | '$' => true
    | '"' => at_.braces || !at_.document
    | '\x7d' => at_.braces
    | _ => false

def afterSelection (at_ : Context) (selection : Selection) : Context :=
  match selection with
  | .without _ _ => { braces := true }
  | _ => { quoted := at_.quotes, braces := true, document := at_.document }

end Context

namespace Pieces

/-- Put text before pieces, joining it with text of the same kind. -/
def prepend (quoted : Bool) (cs : List Char) : List Piece → List Piece
  | .text q more :: rest =>
    if q = quoted then .text q (cs ++ more) :: rest else .text quoted cs :: .text q more :: rest
  | rest => .text quoted cs :: rest

/-- Pieces between double quotes. They make a field even if they come to nothing, unless they are the
arguments alone. -/
def marked : List Piece → List Piece
  | [.parameter q ['@'] .value []] => [.parameter q ['@'] .value []]
  | pieces => prepend true [] pieces

/-- Remember that some of the word is quoted. -/
def markQuoted : Reading Unit := modify fun s => { s with quoted := true }

/-- The longest stretch of characters that stand for themselves. -/
def ordinary (at_ : Context) : Reading (List Char) := do
  let s ← get
  set { s with rest := s.rest.dropWhile at_.isOrdinary }
  return s.rest.takeWhile at_.isOrdinary

/-- The text ends inside a word. -/
def atEnd (at_ : Context) : Reading (List Piece) :=
  if at_.expression then Source.fail "Missing '))'"
  else if at_.quoted && !at_.document then Source.fail "Unterminated quoted string"
  else if at_.braces then Source.fail "Missing '\x7d'"
  else return []

/-- The source between two back quotes, what comes after it, and how many lines it spans. A backslash
escapes a back quote, a dollar sign, a backslash and, between double quotes, a double quote. -/
def backQuoted (quoted : Bool) : List Char → Option (List Char × List Char × Nat)
  | [] => none
  | '\x60' :: rest => some ([], rest, 0)
  | '\\' :: '\n' :: rest => (backQuoted quoted rest).map fun (inside, after, n) => (inside, after, n + 1)
  | '\\' :: c :: rest =>
    (backQuoted quoted rest).map fun (inside, after, n) =>
      if ['\x60', '$', '\\'].contains c || (quoted && c == '"') then (c :: inside, after, n)
      else ('\\' :: c :: inside, after, n)
  | c :: rest =>
    (backQuoted quoted rest).map fun (inside, after, n) =>
      (c :: inside, after, if c = '\n' then n + 1 else n)

/-- Single quotes: all up to the next one stands for itself. -/
def singleQuoted : Reading Piece := do
  let s ← get
  let inside := s.rest.takeWhile (· ≠ '\'')
  match s.rest.dropWhile (· ≠ '\'') with
  | [] =>
    set { s with line := s.line + inside.count '\n' }
    Source.fail "Unterminated quoted string"
  | _ :: after =>
    set { s with rest := after, line := s.line + inside.count '\n', quoted := true }
    return .text true inside

/-- The character names a special parameter. -/
def isSpecial (c : Char) : Bool := ['@', '*', '#', '?', '$', '!', '-'].contains c || c.isDigit

/-- The name of a parameter in braces. Nothing comes back where none can stand. -/
def bracedName : Reading (Option (List Char)) := do
  match ← Source.peek? with
  | none => return none
  | some c =>
    if startsName c then return some (← Source.takeWhile isNameChar (← Source.bound))
    else if c.isDigit then return some (← Source.takeWhile Char.isDigit (← Source.bound))
    else
      if c = '\x7d' then return none
      Source.drop 1
      return if isSpecial c then some [c] else none

/-- The selection after the name of a parameter in braces. What comes back with it says whether the
closing brace has been taken too. -/
def selectionOf : Reading (Selection × Bool) := do
  let operator (nullToo : Bool) (c : Char) : Selection :=
    match c with
    | '-' => .orElse nullToo
    | '+' => .ifSet nullToo
    | '?' => .orComplain nullToo
    | '=' => .orAssign nullToo
    | _ => .unknown
  match ← Source.next? with
  | some '\x7d' => return (.value, true)
  | some ':' =>
    match ← Source.next? with
    | some c => return (operator true c, false)
    | none => return (.unknown, false)
  | some '%' => return (.without true (← Source.accept '%'), false)
  | some '#' => return (.without false (← Source.accept '#'), false)
  | some c => return (operator false c, false)
  | none => return (.unknown, false)

/-- The name and the selection of a parameter in braces. A `#` before a name asks for the length. -/
def selected : Reading (List Char × Selection × Bool) := do
  let ordinary : Reading (List Char × Selection × Bool) := do
    match ← bracedName with
    | some name =>
      let (selection, closed) ← selectionOf
      return (name, selection, closed)
    | none => return ([], .unknown, false)
  if (← Source.peek?) ≠ some '#' then ordinary
  else
    match (← get).rest with
    | _ :: c :: after =>
      if isNameChar c then
        Source.drop 1
        let name ← bracedName
        if (← Source.peek?) = some '\x7d' then return (name.getD [], .length, false)
        else return (name.getD [], .unknown, false)
      else if c ≠ '\x7d' && after.head? == some '\x7d' then
        Source.drop 2
        return if isSpecial c then ([c], .length, false) else ([], .unknown, false)
      else ordinary
    | _ => ordinary

section

variable (nested : Bool → Reading (Option Script))

/-- Read a script inside a word, keeping what the reader remembers about the word. -/
def inside (parenthesized : Bool) : Reading (Option Script) := do
  let s ← get
  set { s with pending := [], handedBack := false, quoted := false }
  let body ← nested parenthesized
  modify fun t => { t with pending := s.pending, handedBack := false, quoted := s.quoted }
  return body

/-- The output of the script between back quotes, the first of which has been taken. -/
def fromBackQuotes (at_ : Context) : Reading Piece := do
  let s ← get
  match backQuoted at_.quotes s.rest with
  | none => Source.fail "EOF in backquote substitution"
  | some (source, after, lines) =>
    set { s with rest := source }
    let body ← inside nested false
    modify fun t => { t with rest := after, line := s.line + lines }
    return .output at_.quotes body

mutual

/-- The pieces up to what ends them here. A closing quote or brace stays where it is; the parentheses
that close an expression are taken. The last argument counts open parentheses. -/
def read : Nat → Context → Nat → Reading (List Piece)
  | 0, _, _ => Source.fail "word too long"
  | fuel + 1, at_, depth => do
    let cs ← ordinary at_
    if !cs.isEmpty then return prepend at_.quotes cs (← read fuel at_ depth)
    match ← Source.peek? with
    | none => atEnd at_
    | some c =>
      if at_.isOrdinary c then return ← read fuel at_ depth
      match c with
      | '\\' =>
        Source.drop 1
        match (← get).rest with
        | [] => return [.text true ['\\']]
        | c :: _ =>
          Source.drop 1
          if c = '\n' then Source.countLine
          markQuoted
          return prepend true (if at_.isEscaped c then [c] else ['\\', c]) (← read fuel at_ depth)
      | '\'' =>
        Source.drop 1
        let piece ← singleQuoted
        return piece :: (← read fuel at_ depth)
      | '"' =>
        if at_.quotes && !at_.braces then return []
        else
          Source.drop 1
          let between ← read fuel { quoted := true } 0
          Source.drop 1
          markQuoted
          return marked between ++ (← read fuel at_ depth)
      | '$' =>
        Source.drop 1
        let piece ← dollar fuel at_
        return piece :: (← read fuel at_ depth)
      | '\x60' =>
        Source.drop 1
        let piece ← fromBackQuotes nested at_
        return piece :: (← read fuel at_ depth)
      | '\n' =>
        if at_.quotes || at_.braces then
          Source.drop 1
          Source.countLine
          return prepend at_.quotes ['\n'] (← read fuel at_ depth)
        else return []
      | '\x7d' => return []
      | '(' =>
        if at_.expression then
          Source.drop 1
          return prepend true ['('] (← read fuel at_ (depth + 1))
        else return []
      | ')' =>
        if at_.expression then
          Source.drop 1
          if depth > 0 then return prepend true [')'] (← read fuel at_ (depth - 1))
          else if ← Source.accept ')' then return []
          else return prepend true [')'] (← read fuel at_ depth)
        else return []
      | _ => return []

/-- The piece that a dollar sign starts. The dollar sign has been taken. -/
def dollar : Nat → Context → Reading Piece
  | 0, _ => Source.fail "word too long"
  | fuel + 1, at_ => do
    match ← Source.peek? with
    | some '(' =>
      Source.drop 1
      if ← Source.accept '(' then
        return .number at_.quotes (← read fuel { expression := true } 0)
      else return .output at_.quotes (← inside nested true)
    | some '\x7b' =>
      Source.drop 1
      let (name, selection, closed) ← selected
      if closed then return .parameter at_.quotes name selection []
      else
        let word ← read fuel (at_.afterSelection selection) 0
        Source.drop 1
        return .parameter at_.quotes name selection word
    | some c =>
      if startsName c then
        return .parameter at_.quotes (← Source.takeWhile isNameChar (← Source.bound)) .value []
      else if isSpecial c then
        Source.drop 1
        return .parameter at_.quotes [c] .value []
      else return .text at_.quotes ['$']
    | none => return .text at_.quotes ['$']

end

end

end Pieces

end Shell

end BuildPlan
