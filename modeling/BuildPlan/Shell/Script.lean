/-!
# Shell scripts

A helper may be a shell script. This file holds what a script is made of. Scripts work on bytes, and a
byte is written as the character of that number.

* A `Piece` is a part of a word: text, a parameter, the output of a script or a number to be computed,
  each quoted or not. A word is a list of pieces.
* A `Redirection` says where a descriptor leads while a command runs.
* A `Script` is a command or commands put together: in sequence, joined by `&&`, `||` and `|`, in a
  subshell or in the background, in a branch, in a loop, under patterns, or under a name.

The text of a here-document comes after the line it is named on, so a script holds the number of the
document in place of its text.
-/

namespace BuildPlan

namespace Shell

/-- What is taken of a parameter. The flag says that an empty value counts as none. -/
inductive Selection where
  | value
  | length
  /-- Its value, or a word if it has none. -/
  | orElse (nullToo : Bool)
  /-- Its value, or a word if it has none, which becomes its value. -/
  | orAssign (nullToo : Bool)
  /-- Its value; if it has none, the shell ends with a word as its complaint. -/
  | orComplain (nullToo : Bool)
  /-- A word if it has a value. -/
  | ifSet (nullToo : Bool)
  /-- Its value without the part at the start or the end that a pattern fits. -/
  | without (fromEnd longest : Bool)
  /-- Nothing that can be taken. -/
  | unknown
deriving DecidableEq

inductive RedirectionKind where
  | read
  /-- To a file that is written anew, whatever the options say. -/
  | overwrite
  /-- To a file that is written anew. -/
  | write
  /-- To a file that is written at its end. -/
  | append
  /-- To a file that is read and written. -/
  | update
  /-- To where another descriptor leads. -/
  | duplicate
  /-- To the text of a here-document. -/
  | document (number : Nat)
deriving DecidableEq

/-- A redirection of a descriptor, with the word that names its target. -/
structure Redirection (Word : Type) where
  descriptor : Nat
  kind : RedirectionKind
  target : Word

mutual

/-- A part of a word. -/
inductive Piece where
  /-- Text that stands for itself. -/
  | text (quoted : Bool) (cs : List Char)
  /-- A parameter, with the word that its selection needs. -/
  | parameter (quoted : Bool) (name : List Char) (selection : Selection) (word : List Piece)
  | output (quoted : Bool) (body : Option Script)
  | number (quoted : Bool) (expression : List Piece)

/-- Commands put together. The number is the line a command starts on. -/
inductive Script where
  /-- A program or builtin with its assignments, words and redirections. -/
  | simple (line : Nat) (assignments words : List (List Piece))
      (redirections : List (Redirection (List Piece)))
  /-- The output of each is the input of the next. -/
  | pipe (stages : List Script) (background : Bool)
  | redirected (line : Nat) (body : Script) (redirections : List (Redirection (List Piece)))
  /-- In a shell of its own. -/
  | subshell (line : Nat) (body : Option Script) (redirections : List (Redirection (List Piece)))
  /-- In a shell of its own, without waiting for it. -/
  | background (line : Nat) (body : Script) (redirections : List (Redirection (List Piece)))
  | sequence (first second : Script)
  /-- The second only if the first succeeds. -/
  | andThen (first second : Script)
  /-- The second only if the first fails. -/
  | orElse (first second : Script)
  /-- Success and failure exchanged. -/
  | negated (body : Script)
  | branch (condition yes : Option Script) (no : Option Script)
  /-- As long as the condition succeeds, or until it does. -/
  | loop (inverted : Bool) (condition body : Option Script)
  /-- Once for each word, or for each argument if there is no word list. -/
  | each (line : Nat) (name : List Char) (words : Option (List (List Piece))) (body : Option Script)
  /-- The first body of which a pattern fits the word. -/
  | choice (line : Nat) (word : List Piece) (arms : List (List (List Piece) × Option Script))
  /-- A body to be run under a name. -/
  | definition (line : Nat) (name : List Char) (body : Script)

end

/-- The plain text of a word, if it has nothing else and no quotes. -/
def plain? : List Piece → Option (List Char)
  | [.text false cs] => some cs
  | _ => none

/-- The character may start a name. -/
def startsName (c : Char) : Bool := c.isAlpha || c == '_'

/-- The character may stand in a name. -/
def isNameChar (c : Char) : Bool := c.isAlphanum || c == '_'

def isName (cs : List Char) : Bool := (cs.head?.any startsName) && cs.all isNameChar

/-- The name before an equals sign and the text after it. -/
def assignment? (cs : List Char) : Option (List Char × List Char) :=
  let name := cs.takeWhile isNameChar
  match cs.dropWhile isNameChar with
  | '=' :: value => if isName name then some (name, value) else none
  | _ => none

/-- A word as an assignment: the name, and the word without it. -/
def assignmentWord? : List Piece → Option (List Char × List Piece)
  | .text false cs :: rest =>
    (assignment? cs).map fun (name, value) => (name, .text false value :: rest)
  | _ => none

example : assignment? "x_1=a=b".toList = some ("x_1".toList, "a=b".toList) := by decide
example : assignment? "1x=a".toList = none := by decide

end Shell

end BuildPlan
