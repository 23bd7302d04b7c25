import BuildPlan.Files.Tree
import BuildPlan.Shell.Pattern

/-!
# Fields

What a word expands to is a list of *bits*: characters, each with where it comes from, and marks.
Characters that come from a parameter or from the output of a script can separate fields, quoted ones
stand for themselves, and the others can be part of a pattern.

* `Bit.fields` cuts bits into fields at the separators.
* `Bit.whole` is the text of bits that are not cut.
* `Bit.paths` lists the files whose paths a field fits as a pattern.
-/

namespace BuildPlan

namespace Shell

/-- Where a character comes from. -/
inductive Origin where
  | script
  /-- From the script, quoted, or from what replaces something quoted. -/
  | quoted
  /-- From what replaces something that is not quoted. -/
  | replaced
deriving DecidableEq

/-- A part of what a word expands to. -/
inductive Bit where
  | char (origin : Origin) (c : Char)
  /-- There is a field here even if it has no characters. -/
  | present
  /-- A field ends here. -/
  | boundary
deriving DecidableEq

namespace Bit

def ofText (origin : Origin) (cs : List Char) : List Bit :=
  (if origin = .quoted then [.present] else []) ++ cs.map (.char origin)

def ofTexts (origin : Origin) (texts : List (List Char)) : List Bit :=
  [Bit.boundary].intercalate (texts.map (ofText origin))

/-- Bits of a script inside something that is replaced. -/
def asReplaced : List Bit → List Bit :=
  List.map fun
    | .char .script c => .char .replaced c
    | b => b

def isBlank (c : Char) : Bool := c == ' ' || c == '\t' || c == '\n'

/-- A field: its characters, each with whether it is quoted. -/
abbrev Field := Pattern

def Field.text (f : Field) : List Char := f.map Prod.snd

/-- What has come before a bit while bits are cut: whether a separating blank ended the field before, so
that one separator more ends nothing. -/
structure Cutting where
  /-- The field under way, last character first, if there is one. -/
  current : Option Field := none
  /-- Blanks have just ended a field. -/
  afterBlank : Bool := false

/-- The field under way as a list. -/
def Cutting.done (c : Cutting) : List Field := (c.current.map List.reverse).toList

def cut (separators : List Char) : Cutting → List Bit → List Field
  | state, [] => state.done
  | state, .present :: rest => cut separators { current := some (state.current.getD []) } rest
  | state, .boundary :: rest => state.done ++ cut separators {} rest
  | state, .char origin c :: rest =>
    if origin = .replaced && separators.contains c then
      if isBlank c then
        state.done ++
          cut separators { afterBlank := state.afterBlank || state.current.isSome } rest
      else if state.afterBlank && state.current.isNone then cut separators {} rest
      else (state.current.getD []).reverse :: cut separators {} rest
    else
      cut separators { current := some ((decide (origin = .quoted), c) :: state.current.getD []) } rest

def fields (separators : List Char) (bits : List Bit) : List Field := cut separators {} bits

/-- The text of bits that are not cut, with a text between fields. -/
def whole (between : List Char) (bits : List Bit) : List Char :=
  bits.flatMap fun
    | .char _ c => [c]
    | .present => []
    | .boundary => between

def pattern (bits : List Bit) : Pattern :=
  bits.flatMap fun
    | .char origin c => [(decide (origin = .quoted), c)]
    | .present => []
    | .boundary => [(false, ' ')]

/-! ### Paths that fit -/

/-- The steps of a path pattern: its pieces between slashes. -/
def pieces (f : Field) : List Field := f.splitOnP fun (_, c) => c == '/'

/-- The piece as plain text: backslashes quote what follows them. -/
def unescaped : Field → List Char
  | (false, '\\') :: (_, c) :: rest => c :: unescaped rest
  | (_, c) :: rest => c :: unescaped rest
  | [] => []

/-- The names in a directory that a piece fits. Names that start with a dot have to be asked for. -/
def fitting (t : FileTree) (place : Location) (piece : Field) : List (List Char) :=
  let hidden := piece.head?.any fun (_, c) => c == '.'
  let names := t.children place ++ (if hidden then [".", ".."] else [])
  names.map Letters.ofText |>.filter fun name =>
    (hidden || name.head? != some '.') && Pattern.fits piece name

/-- The paths below a directory that the pieces fit. The text is what leads to the directory. -/
def below (t : FileTree) (place : Location) (text : List Char) : List Field → List (List Char)
  | [] => []
  | [piece] =>
    if Pattern.isActive piece then (fitting t place piece).map fun name => text ++ name
    else
      match t.follow place (Letters.toText (unescaped piece)).toList with
      | .ok _ => [text ++ unescaped piece]
      | .error _ => []
  | piece :: rest =>
    let inside (name : List Char) : List (List Char) :=
      match t.follow place (Letters.toText name).toList with
      | .ok next =>
        if t.at? next = some .directory then below t next (text ++ name ++ ['/']) rest else []
      | .error _ => []
    if Pattern.isActive piece then (fitting t place piece).flatMap inside
    else inside (unescaped piece)

/-- The paths that a field fits as a pattern, sorted; the text of the field if there are none. -/
def paths (t : FileTree) (f : Field) : List (List Char) :=
  if !Pattern.isActive f then [f.text]
  else
    let ps := pieces f
    let found := match ps with
      | [] :: rest => if rest.isEmpty then [] else below t [] ['/'] rest
      | ps => below t t.home [] ps
    if found.isEmpty then [f.text] else Letters.sorted found

example : (fields [' '] (ofText .replaced "a  b".toList ++ ofText .quoted " c".toList ++
    [.boundary, .present])).map Field.text = ["a".toList, "b c".toList, []] := by decide
example : (fields [':', ' '] (ofText .replaced ":a : b::".toList)).map Field.text =
    [[], ['a'], ['b'], []] := by decide

end Bit

end Shell

end BuildPlan
