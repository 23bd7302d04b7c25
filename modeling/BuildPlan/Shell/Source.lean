import BuildPlan.Shell.Script

/-!
# The text of a script while it is read

A script is read command by command, so that what stands before a fault is run before the fault is met.

* `Source` is the text still to be read, with all that the reader has to remember: the line it is on,
  a token handed back, and the here-documents named on this line whose text is still to come.
* `Reading` is a step of the reader. It fails with a `Complaint`, which has a line and a wording.
* `Source.next?` gives the next character. A backslash before a line end takes both away.

A `Token` is a lexical unit. Operators and reserved words are both *signs*, named by their text.
-/

namespace BuildPlan

namespace Shell

/-- Why a text is no script. -/
structure Complaint where
  line : Nat
  text : String
deriving DecidableEq

/-- A lexical unit of a script. -/
inductive Token where
  | endOfText
  | lineEnd
  /-- An operator or a reserved word. -/
  | sign (text : String)
  /-- A word. The flag says that some of it is quoted. -/
  | word (pieces : List Piece) (quoted : Bool)
  /-- The start of a redirection; of a here-document, whether tabs before its lines are dropped. -/
  | redirection (descriptor : Nat) (kind : RedirectionKind) (stripsTabs : Bool)

namespace Token

def name : Token → String
  | .endOfText => "end of file"
  | .lineEnd => "newline"
  | .sign text => "\"" ++ text ++ "\""
  | .word _ _ => "word"
  | .redirection _ _ _ => "redirection"

def isSign (t : Token) (text : String) : Bool :=
  match t with
  | .sign s => s == text
  | _ => false

def reserved : List String :=
  ["!", "case", "do", "done", "elif", "else", "esac", "fi", "for", "if", "in", "then", "until",
    "while", "\x7b", "\x7d"]

/-- The signs that end a list of commands. -/
def closers : List String :=
  [")", ";;", "do", "done", "elif", "else", "esac", "fi", "then", "\x7d"]

/-- The token ends a list of commands. -/
def closes : Token → Bool
  | .endOfText => true
  | .sign s => closers.contains s
  | _ => false

end Token

/-- A here-document whose text is still to come. -/
structure PendingDocument where
  number : Nat
  /-- The line that ends it. -/
  mark : List Char
  /-- Its text stands for itself. -/
  literal : Bool
  /-- Tabs before its lines are dropped. -/
  stripsTabs : Bool

/-- The text of a script while it is read. -/
structure Source where
  /-- The text still to be read. -/
  rest : List Char
  line : Nat := 1
  last : Token := .endOfText
  /-- The last token has been handed back. -/
  handedBack : Bool := false
  /-- Some of the word under way is quoted. -/
  quoted : Bool := false
  /-- The here-documents named on this line. -/
  pending : List PendingDocument := []
  /-- The here-documents read so far. -/
  documents : Array (List Piece) := #[]
  /-- The words that stand for other text. -/
  aliases : List (List Char × List Char) := []
  /-- The aliases being read, each with the length of the text behind it. -/
  unfolding : List (List Char × Nat) := []
  /-- The next word may be an alias wherever it stands. -/
  unfoldsNext : Bool := false

/-- A step of reading a script. -/
abbrev Reading := StateT Source (Except Complaint)

namespace Source

def fail {α : Type} (text : String) : Reading α := do
  throw ⟨(← get).line, "Syntax error: " ++ text⟩

/-- A token stands where it cannot, perhaps in the place of another. -/
def unexpected {α : Type} (t : Token) (instead : Option String := none) : Reading α :=
  fail (t.name ++ " unexpected" ++
    instead.elim "" fun sign => " (expecting \"" ++ sign ++ "\")")

/-- Drop a number of characters. -/
def drop (n : Nat) : Reading Unit := modify fun s => { s with rest := s.rest.drop n }

def countLine : Reading Unit := modify fun s => { s with line := s.line + 1 }

/-- The text without the joined lines at its start, and how many there are. -/
def joined : List Char → Nat × List Char
  | '\\' :: '\n' :: rest =>
    let (n, rest) := joined rest
    (n + 1, rest)
  | rest => (0, rest)

/-- The next character, after joining lines. It stays where it is. -/
def peek? : Reading (Option Char) := do
  let s ← get
  let (n, rest) := joined s.rest
  set { s with rest := rest, line := s.line + n }
  return rest.head?

/-- Take the next character, after joining lines. A line end is not counted. -/
def next? : Reading (Option Char) := do
  let c ← peek?
  drop 1
  return c

/-- Take the next character if it is this one. -/
def accept (c : Char) : Reading Bool := do
  if (← peek?) = some c then
    drop 1
    return true
  else return false

/-- Take characters as long as they pass a test, joining lines on the way. The number bounds how many
there are. -/
def takeWhile (p : Char → Bool) : Nat → Reading (List Char)
  | 0 => return []
  | bound + 1 => do
    match ← peek? with
    | some c =>
      if p c then
        drop 1
        return c :: (← takeWhile p bound)
      else return []
    | none => return []

/-- A bound on how many characters there are. -/
def bound : Reading Nat := return (← get).rest.length + 8

/-- The text without the blanks and the comments at its start, and how many lines are joined there. The
flag says that a comment is under way. -/
def gap : Bool → List Char → Nat × List Char
  | false, ' ' :: rest => gap false rest
  | false, '\t' :: rest => gap false rest
  | false, '#' :: rest => gap true rest
  | false, '\\' :: '\n' :: rest =>
    let (n, rest) := gap false rest
    (n + 1, rest)
  | true, c :: rest => if c = '\n' then (0, c :: rest) else gap true rest
  | _, rest => (0, rest)

def skipGap : Reading Unit :=
  modify fun s =>
    let (n, rest) := gap false s.rest
    { s with rest := rest, line := s.line + n }

/-- Hand the last token back. -/
def handBack : Reading Unit := modify fun s => { s with handedBack := true }

example : gap false " \\\n\t# x\ny".toList = (1, "\ny".toList) := by decide

end Source

end Shell

end BuildPlan
