import BuildPlan.Shell.Expansion

/-!
# What builtins have in common

* `Builtin.optionsOf` takes the options at the start of the arguments of a builtin.
* `Builtin.emit` prints what a builtin prints. A failure to print is its failure.
* `Builtin.count` reads a number.
-/

namespace BuildPlan

namespace Shell

open Step (session modifySession setStatus)

namespace Builtin

/-- The options at the start of arguments, and the other arguments. The letters say which options there
are; a letter before a colon takes a value. The number bounds how many words there are. -/
def optionsWithin (letters : List Char) : Nat → List (List Char) →
    Step (List (Char × List Char) × List (List Char))
  | 0, arguments => return ([], arguments)
  | bound + 1, arguments =>
    match arguments with
    | ['-', '-'] :: rest => return ([], rest)
    | ('-' :: c :: cs) :: rest =>
      if !letters.contains c || c = ':' then Step.fail ("Illegal option -".toList ++ [c])
      else if (letters.dropWhile (· ≠ c)).drop 1 |>.head?.any (· == ':') then
        match cs, rest with
        | [], [] => Step.fail ("No arg for -".toList ++ [c] ++ " option".toList)
        | [], value :: rest => do
          let (more, left) ← optionsWithin letters bound rest
          return ((c, value) :: more, left)
        | cs, rest => do
          let (more, left) ← optionsWithin letters bound rest
          return ((c, cs) :: more, left)
      else do
        let rest := if cs.isEmpty then rest else ('-' :: cs) :: rest
        let (more, left) ← optionsWithin letters bound rest
        return ((c, []) :: more, left)
    | arguments => return ([], arguments)

/-- The options at the start of arguments, and the other arguments. -/
def optionsOf (letters : String) (arguments : List (List Char)) :
    Step (List (Char × List Char) × List (List Char)) :=
  optionsWithin letters.toList (arguments.flatten.length + arguments.length + 1) arguments

/-- Print what a builtin prints. A failure to print is its failure. -/
def emit (text : List Char) : Step Unit := do
  match ← Step.put 1 text with
  | none => return
  | some _ =>
    let s ← session
    Step.complain (s.builtin.getD [] ++ ": I/O error".toList)
    setStatus 1

def emitLines (ls : List (List Char)) : Step Unit := emit (Letters.unlines ls)

/-- The number that a word spells. -/
def count (w : List Char) : Step Nat :=
  match Decimal.count? w with
  | some n => return n
  | none => Step.fail ("Illegal number: ".toList ++ w)

/-- A value in quotes, so that a shell reads it as one word. -/
def inQuotes (value : List Char) : List Char :=
  let single := '\'' :: (value.flatMap fun c =>
    if c = '\'' then ['\'', '"', '\'', '"', '\''] else [c]) ++ ['\'']
  single

def requireName (name : List Char) : Step Unit :=
  if isName name then return else Step.fail (name ++ ": bad variable name".toList)

example : inQuotes "it's".toList = "'it'\"'\"'s'".toList := by decide

end Builtin

end Shell

end BuildPlan
