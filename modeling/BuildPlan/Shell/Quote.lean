/-!
# Quoting words for the shell

Words that hold anything except NUL are written so that a shell reads each of them back as one word.
A word is cut into chunks and each chunk is written in one of three styles.

* `Style.admits` says which characters a style can hold: *bare* text holds ASCII letters, digits and
  `+-./:@]_`; *single* quotes hold all but `'`, `^` and a backslash; *double* quotes hold all but a
  back quote, `$`, `!` and `^`, with a backslash before `"` and before a backslash.
* `Shell.chunks` cuts a word greedily: a chunk goes on as long as one style can hold all of it, and
  is written in the first such style of bare, single and double.
* A `^` may only stand at the start of a single-quoted chunk, so it always starts a chunk.
* `Shell.quote?` quotes a word and refuses one with a NUL; `Shell.quoteAll?` writes several words
  with one space between two of them.

The empty word is written as two single quotes.
-/

namespace BuildPlan

namespace Shell

/-- A way to write a chunk of a word. -/
inductive Style where
  | bare
  | single
  | double
deriving DecidableEq

/-- The characters besides ASCII letters and digits that need no quotes. -/
def plainMarks : List Char := ['+', '-', '.', '/', ':', '@', ']', '_']

/-- The style can hold the character past the start of a chunk. -/
def Style.admits : Style → Char → Bool
  | .bare, c => c.isAlphanum || plainMarks.contains c
  | .single, c => !(['\'', '^', '\\'].contains c)
  | .double, c => !(['\x60', '$', '!', '^'].contains c)

/-- The styles that can still hold a chunk. -/
structure Choice where
  bare : Bool
  /-- It can stand between single quotes. -/
  single : Bool
  /-- It can stand between double quotes. -/
  double : Bool
deriving DecidableEq

namespace Choice

/-- The styles of the choice that can hold one more character. -/
def narrow (s : Choice) (c : Char) : Choice where
  bare := s.bare && Style.bare.admits c
  single := s.single && Style.single.admits c
  double := s.double && Style.double.admits c

def isEmpty (s : Choice) : Bool := !(s.bare || s.single || s.double)

/-- The styles that can hold a chunk starting with the character. A leading `^` is held by single
quotes alone. -/
def starting (c : Char) : Choice :=
  if c = '^' then ⟨false, true, false⟩ else narrow ⟨true, true, true⟩ c

/-- The style used: bare if possible, else single, else double. -/
def preferred (s : Choice) : Style :=
  if s.bare then .bare else if s.single then .single else .double

end Choice

/-- A stretch of a word, written in one style. -/
structure Chunk where
  style : Style
  content : List Char
deriving DecidableEq

/-- One character between double quotes. -/
def doubleEscape (c : Char) : List Char :=
  if c = '"' ∨ c = '\\' then ['\\', c] else [c]

/-- The written form of a chunk. -/
def Chunk.spell (k : Chunk) : List Char :=
  match k.style with
  | .bare => k.content
  | .single => '\'' :: k.content ++ ['\'']
  | .double => '"' :: k.content.flatMap doubleEscape ++ ['"']

/-- Cut the rest of a word into chunks, where `taken` (last character first) belongs to the current
chunk and `choice` holds the styles it can be written in. -/
def chunksFrom (choice : Choice) (taken : List Char) : List Char → List Chunk
  | [] => [⟨choice.preferred, taken.reverse⟩]
  | c :: rest =>
    let narrowed := choice.narrow c
    if narrowed.isEmpty then
      ⟨choice.preferred, taken.reverse⟩ :: chunksFrom (Choice.starting c) [c] rest
    else chunksFrom narrowed (c :: taken) rest

def chunks : List Char → List Chunk
  | [] => []
  | c :: rest => chunksFrom (Choice.starting c) [c] rest

/-- The chunks from a point on hold the characters from that point on. -/
theorem content_chunksFrom (choice : Choice) (taken cs : List Char) :
    (chunksFrom choice taken cs).flatMap Chunk.content = taken.reverse ++ cs := by
  induction cs generalizing choice taken with
  | nil => simp [chunksFrom]
  | cons c rest ih =>
    rw [chunksFrom]
    split
    · simp [ih]
    · simp [ih]

/-- No character of a word is lost or moved by cutting it into chunks. -/
theorem content_chunks (cs : List Char) : (chunks cs).flatMap Chunk.content = cs := by
  cases cs with
  | nil => rfl
  | cons c rest => simp [chunks, content_chunksFrom]

/-- The written form of a word without NUL. -/
def quoted (cs : List Char) : List Char :=
  if cs.isEmpty then ['\'', '\''] else (chunks cs).flatMap Chunk.spell

/-- The word written for the shell, or nothing if it holds a NUL, which no shell word can. -/
def quote? (word : String) : Option String :=
  if word.toList.contains '\x00' then none else some (String.ofList (quoted word.toList))

/-- Words written for the shell with one space between two of them, or nothing if one holds a
NUL. -/
def quoteAll? (words : List String) : Option String :=
  (words.mapM quote?).map (" ".intercalate ·)

example : quote? "a b" = some "'a b'" := by decide
example : quote? "it's" = some "\"it's\"" := by decide
example : quote? "x^y^z" = some "x'^y''^z'" := by decide
example : quote? "ab'cd!ef^\\" = some "\"ab'cd\"'!ef''^'\"\\\\\"" := by decide
example : quoteAll? ["", "-o", "$5"] = some "'' -o '$5'" := by decide

end Shell

end BuildPlan
