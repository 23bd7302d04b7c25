import BuildPlan.Shell.Letters

/-!
# The first line of a script

A file that starts with `#!` is run by the interpreter that its first line names. Only the first bytes
of the file count, and a name that they may cut off is no name. Zeros are seen after a shorter file.

* `FirstLine.ofText?` reads the interpreter and its argument, of which there is at most one: all that
  comes after the name, blanks included.
-/

namespace BuildPlan

/-- What the first line of a script says. -/
structure FirstLine where
  interpreter : List Char
  /-- What it is given before the path of the script. -/
  argument : Option (List Char) := none
deriving DecidableEq

namespace FirstLine

/-- How many bytes after the mark at the start of a file count. -/
def window : Nat := 254

def isBlank (c : Char) : Bool := c == ' ' || c == '\t'

/-- A character that ends the name of an interpreter. -/
def endsName (c : Char) : Bool := isBlank c || c == '\x00'

def withoutBlanksAfter (cs : List Char) : List Char := (cs.reverse.dropWhile isBlank).reverse

/-- The bytes that count, of those after the mark. -/
def seen (rest : List Char) : List Char :=
  rest.take window ++ List.replicate (window - rest.length) '\x00'

/-- The rest of the first line. A line that may be cut inside the first name is none. -/
def line? (rest : List Char) : Option (List Char) :=
  let cs := seen rest
  if cs.contains '\n' then some (cs.takeWhile (· ≠ '\n'))
  else if (cs.dropWhile isBlank).any endsName then some cs.dropLast
  else none

/-- What the first line of a text says, if it names an interpreter. -/
def ofText? (text : List Char) : Option FirstLine := do
  let rest ← Letters.after? ['#', '!'] text
  let line ← line? rest
  let body := (withoutBlanksAfter line).dropWhile isBlank
  let name := body.takeWhile (!endsName ·)
  if body.isEmpty then none
  else
    match body.drop name.length with
    | '\x00' :: _ => return ⟨name, none⟩
    | after =>
      let argument := (after.dropWhile isBlank).takeWhile (· ≠ '\x00')
      return ⟨name, if argument.isEmpty then none else some argument⟩

example : ofText? "#! /bin/sh -e u \necho".toList = some ⟨"/bin/sh".toList, some "-e u".toList⟩ := by
  decide
example : ofText? "#!/bin/sh".toList = some ⟨"/bin/sh".toList, none⟩ := by decide
example : ofText? "#!\necho".toList = none ∧ ofText? " #!/bin/sh\n".toList = none := by decide

end FirstLine

end BuildPlan
