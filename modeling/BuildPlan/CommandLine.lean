import BuildPlan.Plan.Assembly
import BuildPlan.Text.Likeness
import BuildPlan.Text.Utf8

/-!
# The command line

The program has three options that take a value, `--output` (`-o`), `--builddir` and `--cxx`, and three
that take none, `--verbose` (`-v`), `--help` (`-h`) and `--version` (`-V`).

* `CommandLine.reading` says how a single word reads: as a long option, as a cluster of short
  options, as `--`, as an option with an unreadable name, or as none of these.
* `CommandLine.scan` goes through the words. The first word that is none of these, or the word after
  `--`, starts the passthrough words, which are kept without being looked at.
* An option without its value takes the next word as it is, unless that word is `--` or reads as an
  option. In a cluster, `o` takes the rest of the word or, if there is none, the next word.
* `Stop` is why the program does not start: help or version was asked for, or the words are wrong.

Words come as bytes. A value or a passthrough word that is not text is an error, and so is a name after
`--` that is not text. An option with its value is *settled* when the next option or the first
passthrough word is met: only then are a missing value, a repeated option and a value that is not text
found, in this order.
-/

namespace BuildPlan

/-- A word of a command line. -/
structure Word where
  bytes : List UInt8
deriving DecidableEq

namespace Word

def ofText (text : String) : Word := ⟨Utf8.encode text⟩

/-- The word as text, with replacement characters where it is none. -/
def text (w : Word) : String := Utf8.decodeLossy w.bytes

def intact (w : Word) : Bool := (Utf8.decode w.bytes).isSome

end Word

/-- The options that take a value. -/
inductive ValueOption where
  | output
  /-- The directory for object files. -/
  | builddir
  | cxx
deriving DecidableEq

/-- The options that take no value. -/
inductive SwitchOption where
  | verbose
  | help
  | version
deriving DecidableEq

inductive AnyOption where
  /-- One with a value. -/
  | value (o : ValueOption)
  /-- One without. -/
  | switch (o : SwitchOption)
deriving DecidableEq

/-- What the words ask for. -/
structure CommandLine where
  /-- The build file to write. -/
  output : Path
  verbose : Bool
  settings : Settings
  /-- The words kept without being looked at. -/
  passthrough : List String
deriving DecidableEq

namespace CommandLine

/-- Why the program does not start. -/
inductive Stop where
  /-- The help text was asked for. -/
  | help
  | version
  | missingValue (o : ValueOption)
  /-- An option is given twice. -/
  | repeated (o : AnyOption)
  /-- An option that takes no value has one. The options in use come last. -/
  | unexpectedValue (o : SwitchOption) (value : String) (used : List AnyOption)
  /-- An option has a name that is not text. With it come the option that was meant, if one is alike,
  and the options in use. -/
  | unreadable (name : String) (meant : Option AnyOption) (used : List AnyOption)
  | notText
deriving DecidableEq

/-! ### Names and wordings -/

/-- An option as it is named in messages. -/
def display : AnyOption → String
  | .value .output => "--output <FILE>"
  | .value .builddir => "--builddir <DIR>"
  | .value .cxx => "--cxx <PROGRAM>"
  | .switch .verbose => "--verbose"
  | .switch .help => "--help"
  | .switch .version => "--version"

/-- The options by their long names. -/
def longNames : List (String × AnyOption) :=
  [("output", .value .output), ("builddir", .value .builddir), ("cxx", .value .cxx),
   ("verbose", .switch .verbose), ("help", .switch .help), ("version", .switch .version)]

def longName (o : AnyOption) : String := ((longNames.find? (·.2 = o)).map Prod.fst).getD ""

/-- The help text, line by line. -/
def helpLines : List String :=
  ["Probes llvm-config and writes a self-regenerating Ninja file for neatc.",
   "",
   "Usage: configure [OPTIONS] [ARGS]...",
   "",
   "Arguments:",
   "  [ARGS]...  Further arguments, recorded for regeneration and otherwise ignored",
   "",
   "Options:",
   "  -o, --output <FILE>   Path of the Ninja file to write [default: build.ninja]",
   "      --builddir <DIR>  Directory receiving object files [default: build]",
   "      --cxx <PROGRAM>   C++ compiler driver used for compiling and linking [default: clang++]",
   "  -v, --verbose         Enable verbose logging output",
   "  -h, --help            Print help",
   "  -V, --version         Print version"]

def helpText : String := String.join (helpLines.map (· ++ "\n"))

/-- The usage line of most messages. -/
def usage : String := "Usage: configure [OPTIONS] [ARGS]..."

/-- The usage line that names the options in use, each once. -/
def usageOf (used : List AnyOption) : String :=
  if used.isEmpty then usage
  else "Usage: configure " ++ " ".intercalate (used.eraseDups.map display) ++ " [ARGS]..."

/-- The last line of every message about wrong words. -/
def hint : String := "For more information, try '--help'.\n"

namespace Stop

/-- What the program says when it does not start. -/
def message : Stop → String
  | .help => helpText
  | .version => "neatc-configure 0.1.0\n"
  | .missingValue o =>
    "error: a value is required for '" ++ display (.value o) ++ "' but none was supplied\n\n" ++ hint
  | .repeated o =>
    "error: the argument '" ++ display o ++ "' cannot be used multiple times\n\n" ++ usage ++
      "\n\n" ++ hint
  | .unexpectedValue o value used =>
    "error: unexpected value '" ++ value ++ "' for '" ++ display (.switch o) ++
      "' found; no more were expected\n\n" ++ usageOf used ++ "\n\n" ++ hint
  | .unreadable name meant used =>
    "error: unexpected argument '--" ++ name ++ "' found\n\n" ++
      (meant.elim "" fun o => "  tip: a similar argument exists: '--" ++ longName o ++ "'\n") ++
      "  tip: to pass '--" ++ name ++ "' as a value, use '-- --" ++ name ++ "'\n\n" ++
      usageOf used ++ "\n\n" ++ hint
  | .notText =>
    "error: invalid UTF-8 was detected in one or more arguments\n\n" ++ usage ++ "\n\n" ++ hint

/-- The words were not wrong: something was asked for that ends the program. -/
def isAnswer : Stop → Bool
  | .help => true
  | .version => true
  | _ => false

end Stop

/-! ### Single words -/

inductive Reading where
  /-- A long option, with the value attached to it. -/
  | long (o : AnyOption) (value : Option Word)
  /-- A long option with a name that is not text. -/
  | unreadable (name : String)
  /-- A cluster of short options. -/
  | cluster (letters : List Char)
  /-- The word `--`. -/
  | separator
  /-- Anything else. -/
  | other
deriving DecidableEq

def shortLetters : List Char := ['o', 'v', 'h', 'V']

/-- The byte before an option. -/
def dash : UInt8 := 0x2D

/-- The byte before a value. -/
def equals : UInt8 := 0x3D

/-- How the part of a word after `--` reads. -/
def longReading (bytes : List UInt8) : Reading :=
  let name := bytes.takeWhile (· ≠ equals)
  match Utf8.decode name with
  | none => .unreadable (Utf8.decodeLossy name)
  | some name =>
    match longNames.lookup name with
    | none => .other
    | some o =>
      match bytes.dropWhile (· ≠ equals) with
      | [] => .long o none
      | _ :: value => .long o (some ⟨value⟩)

/-- How the part of a word after `-` reads. -/
def shortReading (bytes : List UInt8) : Reading :=
  let letters := bytes.map fun b => Char.ofNat b.toNat
  if letters.isEmpty then .other
  else if letters.all shortLetters.contains then .cluster letters
  else .other

def reading (w : Word) : Reading :=
  match w.bytes with
  | [] => .other
  | first :: rest =>
    if first ≠ dash then .other
    else
      match rest with
      | [] => .other
      | second :: name =>
        if second ≠ dash then shortReading rest
        else if name.isEmpty then .separator
        else longReading name

/-! ### All words -/

/-- What the words so far have set. -/
structure Progress where
  /-- The options in use, in the order in which they came. -/
  used : List AnyOption := []
  output : Option String := none
  builddir : Option String := none
  cxx : Option String := none
  /-- The option to be settled, with its value if it has come. -/
  open? : Option (ValueOption × Option Word) := none
deriving DecidableEq

namespace Progress

def put (s : Progress) (value : String) : ValueOption → Progress
  | .output => { s with output := some value }
  | .builddir => { s with builddir := some value }
  | .cxx => { s with cxx := some value }

/-- Settle the open option. An option that is given again is not in use any more, and one with a value
that is not text is; both matter for the usage line only. -/
def settle (s : Progress) : Progress × Option Stop :=
  match s.open? with
  | none => (s, none)
  | some (o, none) => ({ s with open? := none }, some (.missingValue o))
  | some (o, some w) =>
    if s.used.contains (.value o) then
      ({ s with used := s.used.erase (.value o), open? := none }, some (.repeated (.value o)))
    else
      let next := { s with used := s.used ++ [.value o], open? := none }
      if w.intact then (next.put w.text o, none) else (next, some .notText)

/-- The progress with the open option settled. -/
def settled (s : Progress) : Except Stop Progress :=
  match s.settle with
  | (next, none) => .ok next
  | (_, some stop) => .error stop

/-- Open an option, which may have its value already. -/
def openOption (s : Progress) (o : ValueOption) (value : Option Word) : Except Stop Progress := do
  return { ← s.settled with open? := some (o, value) }

/-- Take an option with the value attached to it. -/
def take (s : Progress) (o : ValueOption) (value : Word) : Except Stop Progress := do
  (← s.openOption o (some value)).settled

/-- Take an option without a value. -/
def switch (s : Progress) (o : SwitchOption) : Except Stop Progress := do
  let s ← s.settled
  match o with
  | .verbose =>
    if s.used.contains (.switch .verbose) then .error (.repeated (.switch .verbose))
    else .ok { s with used := s.used ++ [.switch .verbose] }
  | .help => .error .help
  | .version => .error .version

/-- Take a cluster of short options. -/
def cluster (s : Progress) : List Char → Except Stop Progress
  | [] => .ok s
  | 'o' :: [] => s.openOption .output none
  | 'o' :: value => s.take .output (.ofText (String.ofList value))
  | 'v' :: rest => do (← s.switch .verbose).cluster rest
  | 'h' :: rest => do (← s.switch .help).cluster rest
  | 'V' :: rest => do (← s.switch .version).cluster rest
  | _ :: rest => s.cluster rest

/-- Why a name that is not text stops the program. The option that was meant counts as in use. -/
def stopAt (s : Progress) (name : String) : Stop :=
  let meant := (Text.Likeness.closest? name.toList (longNames.map Prod.fst)).bind
    fun name => longNames.lookup name
  .unreadable name meant (s.settle.1.used ++ meant.toList)

/-- The command line, given the passthrough words. -/
def finish (s : Progress) (words : List Word) : Except Stop CommandLine := do
  let s ← s.settled
  if words.all Word.intact then
    .ok
      { output := ⟨s.output.getD "build.ninja"⟩
        verbose := s.used.contains (.switch .verbose)
        settings := ⟨⟨s.builddir.getD "build"⟩, s.cxx.getD "clang++"⟩
        passthrough := words.map Word.text }
  else .error .notText

end Progress

def scan (s : Progress) : List Word → Except Stop CommandLine
  | [] => s.finish []
  | w :: rest =>
    match reading w with
    | .separator => s.finish rest
    | .long (.value o) none => do scan (← s.openOption o none) rest
    | .long (.value o) (some value) => do scan (← s.take o value) rest
    | .long (.switch o) none => do scan (← s.switch o) rest
    | .long (.switch o) (some value) =>
      .error (.unexpectedValue o value.text (s.used ++ [.switch o]))
    | .unreadable name => .error (s.stopAt name)
    | .cluster letters => do scan (← s.cluster letters) rest
    | .other =>
      match s.open? with
      | some (o, none) => scan { s with open? := some (o, some w) } rest
      | _ => s.finish (w :: rest)

/-- Read the words after the program name. -/
def read (words : List Word) : Except Stop CommandLine := scan {} words

example : ((read (["-vo", "f", "x", "-v"].map .ofText)).toOption.map fun c =>
    (c.output.text, c.verbose, c.passthrough)) = some ("f", true, ["x", "-v"]) := by decide +kernel
example : read (["--cxx", "-v"].map .ofText) matches .error (.missingValue .cxx) := by
  decide +kernel
example : read (["--output=a", "-o", "b"].map .ofText) matches .error (.repeated _) := by
  decide +kernel
example : read [.ofText "-v", ⟨[0x2D, 0x2D, 0xFF]⟩] matches .error (.unreadable _ _ _) := by
  decide +kernel

end CommandLine

end BuildPlan
