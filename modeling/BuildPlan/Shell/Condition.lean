import BuildPlan.Process.World
import BuildPlan.Shell.Decimal

/-!
# Conditions of a script

The builtin `test`, also written `[`, decides a condition given as words. Conditions compare texts and
whole numbers, ask for empty texts and for files, and can be negated and joined.

* `Condition.holds` decides a condition, asking `Condition.Files` about files. Words that are no
  condition have a complaint in place of an answer.

Whether a word is an operator depends on the words after it: three words whose middle is an operator on
two are a comparison whatever the others are.
-/

namespace BuildPlan

namespace Shell

namespace Condition

/-- What can be asked about files. -/
structure Files where
  place? : List Char → Option Location
  entryAt? : Location → Option Entry

inductive Kind where
  /-- It asks about one word. -/
  | unary
  /-- It compares two words. -/
  | binary
  /-- It joins or groups conditions. -/
  | other
deriving DecidableEq

def unaryOperators : List String :=
  ["-r", "-w", "-x", "-e", "-f", "-d", "-c", "-b", "-p", "-u", "-g", "-k", "-s", "-t", "-z", "-n", "-h",
    "-O", "-G", "-L", "-S"]

/-- The operators on two words. -/
def binaryOperators : List String :=
  ["=", "!=", "<", ">", "-eq", "-ne", "-ge", "-gt", "-le", "-lt", "-nt", "-ot", "-ef"]

/-- What a word does as an operator, if it is one. -/
def kind? (w : List Char) : Option Kind :=
  let text := String.ofList w
  if unaryOperators.contains text then some .unary
  else if binaryOperators.contains text then some .binary
  else if ["!", "-a", "-o", "(", ")"].contains text then some .other
  else none

/-- The operator at the start of words, if they start with one. -/
def operator? (ws : List (List Char)) : Option (String × Kind) :=
  match ws with
  | [] => none
  | w :: rest =>
    match kind? w with
    | none => none
    | some k =>
      let isOperand := match rest with
        | [] => true
        | [_] => false
        | second :: _ => kind? second == some .binary
      if k = .unary && isOperand then none
      else if w = ['('] && rest.isEmpty then none
      else some (String.ofList w, k)

/-- Deciding takes words from a list. -/
abbrev Deciding := StateT (List (List Char)) (Except (List Char))

/-- The words are no condition. -/
def refuse {α : Type} (operator : List Char) (why : String) : Deciding α :=
  throw (if operator.isEmpty then why.toList else operator ++ ": ".toList ++ why.toList)

/-- The whole number that a word spells. -/
def integer (w : List Char) : Deciding Int :=
  match Decimal.whole? w with
  | some n => return n
  | none => throw ("Illegal number: ".toList ++ w)

variable (files : Files)

/-- What a path leads to. -/
def found? (w : List Char) : Option Entry := (files.place? w).bind files.entryAt?

/-- The path leads to a device. -/
def isDevice (w : List Char) : Bool := ((files.place? w).bind World.device?).isSome

/-- The owner of a path has a permission. -/
def grants (w : List Char) (bit : Nat) : Bool :=
  (found? files w).any fun e => e.grants bit

/-- Decide a question about one word. -/
def unary (operator : String) (w : List Char) : Deciding Bool :=
  match operator with
  | "-n" => return !w.isEmpty
  | "-z" => return w.isEmpty
  | "-e" => return (found? files w).isSome
  | "-f" => return (found? files w).any Entry.isFile && !isDevice files w
  | "-d" => return found? files w = some .directory
  | "-r" => return grants files w Entry.readBit
  | "-w" => return grants files w Entry.writeBit
  | "-x" => return grants files w Entry.runBit
  | "-c" => return isDevice files w
  | "-O" => return (found? files w).isSome
  | "-G" => return (found? files w).isSome
  | "-s" =>
    return (found? files w).any fun
      | .file content _ => !content.isEmpty
      | .directory => true
  | "-t" => do
    let _ ← integer w
    return false
  | _ => return false

/-- Decide a comparison of two words. -/
def binary (operator : String) (a b : List Char) : Deciding Bool := do
  match operator with
  | "=" => return a = b
  | "!=" => return a ≠ b
  | "<" => return Letters.before a b && a ≠ b
  | ">" => return Letters.before b a && a ≠ b
  | "-ef" => return (files.place? a).isSome && files.place? a = files.place? b
  | "-nt" => return false
  | "-ot" => return false
  | _ =>
    let m ← integer a
    let n ← integer b
    match operator with
    | "-eq" => return m = n
    | "-ne" => return m ≠ n
    | "-lt" => return m < n
    | "-le" => return m ≤ n
    | "-gt" => return m > n
    | _ => return m ≥ n

mutual

/-- Decide terms joined by `-o`. The first word is the one under way; the last one of the terms stays. -/
def disjunction : Nat → Deciding Bool
  | 0 => refuse [] "expression too long"
  | fuel + 1 => do
    let a ← conjunction fuel
    match operator? (← get).tail with
    | some ("-o", _) =>
      modify fun ws => ws.drop 2
      let b ← disjunction fuel
      return a || b
    | _ => return a

/-- Decide terms joined by `-a`. -/
def conjunction : Nat → Deciding Bool
  | 0 => refuse [] "expression too long"
  | fuel + 1 => do
    let a ← negation fuel
    match operator? (← get).tail with
    | some ("-a", _) =>
      modify fun ws => ws.drop 2
      let b ← conjunction fuel
      return a && b
    | _ => return a

/-- Decide a term, perhaps negated. -/
def negation : Nat → Deciding Bool
  | 0 => refuse [] "expression too long"
  | fuel + 1 => do
    match operator? (← get) with
    | some ("!", _) =>
      if (← get).tail.isEmpty then return true
      else
        modify List.tail
        return !(← negation fuel)
    | _ => primary fuel

def primary : Nat → Deciding Bool
  | 0 => refuse [] "expression too long"
  | fuel + 1 => do
    match ← get with
    | [] => return false
    | w :: rest =>
      match operator? (w :: rest) with
      | some ("(", _) =>
        set rest
        match operator? rest with
        | some (")", _) => return false
        | _ =>
          let a ← disjunction fuel
          modify List.tail
          match operator? (← get) with
          | some (")", _) => return a
          | _ => refuse [] "closing paren expected"
      | some (operator, .unary) =>
        set rest
        match rest with
        | [] => refuse w "argument expected"
        | operand :: _ => unary files operator operand
      | _ =>
        match operator? rest with
        | some (operator, .binary) =>
          match rest.drop 1 with
          | [] => refuse operator.toList "argument expected"
          | b :: after =>
            set (b :: after)
            binary files operator w b
        | _ => return !w.isEmpty

end

def decideWords (words : List (List Char)) : Except (List Char) Bool := do
  let fuel := 4 * words.length + 8
  let (answer, left) ← (disjunction files fuel).run words
  match left with
  | w :: _ :: _ => throw (w ++ ": unexpected operator".toList)
  | _ => return answer

/-- Decide a condition. Three and four words have rules of their own. The number bounds how often the
first word is a negation. -/
def holdsWithin : Nat → List (List Char) → Except (List Char) Bool
  | 0, ws => decideWords files ws
  | bound + 1, ws =>
    if ws.isEmpty then .ok false
    else
      let comparison : Option (List Char × String × List Char) := match ws with
        | [a, operator, b] =>
          if kind? operator = some .binary then some (a, String.ofList operator, b) else none
        | _ => none
      match comparison with
      | some (a, operator, b) => (binary files operator a b).run' []
      | none =>
        if ws.length = 3 ∨ ws.length = 4 then
          if ws.head? = some ['('] ∧ ws.getLast? = some [')'] then
            decideWords files (ws.drop 1).dropLast
          else if ws.head? = some ['!'] then (holdsWithin bound (ws.drop 1)).map not
          else decideWords files ws
        else decideWords files ws

def holds (words : List (List Char)) : Except (List Char) Bool := holdsWithin files 4 words

private def noFiles : Files := ⟨fun _ => none, fun _ => none⟩

private def answer? (words : List String) : Option Bool :=
  (holds noFiles (words.map String.toList)).toOption

example : answer? ["$1", "=", "$1"] = some true := by decide +kernel
example : answer? ["x", "-eq", "1"] = none := by decide +kernel
example : answer? ["-n", "x", "-a", "!", "-z", "x"] = some true := by decide +kernel
example : answer? ["(", "a", ")"] = some true ∧ answer? ["a", "b"] = none := by decide +kernel

end Condition

end Shell

end BuildPlan
