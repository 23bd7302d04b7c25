import BuildPlan.Shell.Letters

/-!
# Patterns

A pattern is a list of characters, some of them quoted. `*` fits any text, `?` any character, and a
bracket expression one character of a set; quoted characters fit themselves.

* `Pattern.fits` decides whether a pattern fits a whole text.
* `Pattern.trimmed` takes from a text the part at one end that a pattern fits.
-/

namespace BuildPlan

namespace Shell

/-- A pattern: characters, each with whether it is quoted. -/
abbrev Pattern := List (Bool × Char)

namespace Pattern

/-- A character class has a character. -/
def inClass (name : List Char) (c : Char) : Bool :=
  match String.ofList name with
  | "alnum" => c.isAlphanum
  | "alpha" => c.isAlpha
  | "blank" => c == ' ' || c == '\t'
  | "cntrl" => decide (c.toNat < 32) || c.toNat == 127
  | "digit" => c.isDigit
  | "graph" => decide (32 < c.toNat) && decide (c.toNat < 127)
  | "lower" => c.isLower
  | "print" => decide (32 ≤ c.toNat) && decide (c.toNat < 127)
  | "punct" => decide (32 < c.toNat) && decide (c.toNat < 127) && !c.isAlphanum
  | "space" => c == ' ' || (decide (9 ≤ c.toNat) && decide (c.toNat ≤ 13))
  | "upper" => c.isUpper
  | "xdigit" => c.isDigit || ('a' ≤ c && c ≤ 'f') || ('A' ≤ c && c ≤ 'F')
  | _ => false

/-- A member of a bracket expression. -/
inductive Member where
  /-- The characters from one to another. -/
  | range (low high : Char)
  | classOf (name : List Char)
deriving DecidableEq

def Member.has (m : Member) (c : Char) : Bool :=
  match m with
  | .range low high => decide (low.toNat ≤ c.toNat) && decide (c.toNat ≤ high.toNat)
  | .classOf name => inClass name c

/-- The name of a class up to `:]`, and what comes after it. -/
def className : Pattern → Option (List Char × Pattern)
  | (_, ':') :: (_, ']') :: rest => some ([], rest)
  | (_, c) :: rest =>
    if c.isAlpha then (className rest).map fun (name, after) => (c :: name, after) else none
  | [] => none

/-- The members of a bracket expression and what comes after it. The flag says that a member has been
read, so that a closing bracket ends the expression. -/
def members : Nat → Bool → Pattern → Option (List Member × Pattern)
  | 0, _, _ => none
  | _ + 1, _, [] => none
  | bound + 1, started, (quoted, c) :: rest =>
    if started && !quoted && c == ']' then some ([], rest)
    else
      let single : Option (List Member × Pattern) :=
        match rest with
        | (false, '-') :: (quotedHigh, high) :: after =>
          if !quotedHigh && high == ']' then
            (members bound true rest).map fun (ms, left) => (.range c c :: ms, left)
          else (members bound true after).map fun (ms, left) => (.range c high :: ms, left)
        | _ => (members bound true rest).map fun (ms, left) => (.range c c :: ms, left)
      match quoted, c, rest with
      | false, '[', (false, ':') :: named =>
        match className named with
        | some (name, after) =>
          (members bound true after).map fun (ms, left) => (.classOf name :: ms, left)
        | none => single
      | _, _, _ => single

/-- A bracket expression after its opening bracket: whether it asks for characters outside the set, its
members, and what comes after it. -/
def bracket (p : Pattern) : Option (Bool × List Member × Pattern) :=
  match p with
  | (false, '!') :: rest => (members (rest.length + 1) false rest).map fun (ms, left) => (true, ms, left)
  | _ => (members (p.length + 1) false p).map fun (ms, left) => (false, ms, left)

inductive Step where
  | anyText
  | anyCharacter
  /-- A character of a set, or outside it. -/
  | oneOf (outside : Bool) (members : List Member)
  | exactly (c : Char)
deriving DecidableEq

/-- The steps of a pattern. The number bounds how many there are. -/
def steps : Nat → Pattern → List Step
  | 0, _ => []
  | _ + 1, [] => []
  | bound + 1, (false, '*') :: rest => .anyText :: steps bound rest
  | bound + 1, (false, '?') :: rest => .anyCharacter :: steps bound rest
  | bound + 1, (false, '[') :: rest =>
    match bracket rest with
    | some (outside, ms, left) => .oneOf outside ms :: steps bound left
    | none => .exactly '[' :: steps bound rest
  | bound + 1, (false, '\\') :: (_, c) :: rest => .exactly c :: steps bound rest
  | bound + 1, (_, c) :: rest => .exactly c :: steps bound rest

/-- A step other than any text fits a character. -/
def Step.fits : Step → Char → Bool
  | .anyText, _ => false
  | .anyCharacter, _ => true
  | .oneOf outside ms, c => (ms.any fun m => m.has c) != outside
  | .exactly d, c => c == d

/-- Steps fit a whole text. -/
def fitsSteps : List Step → List Char → Bool
  | [], text => text.isEmpty
  | .anyText :: more, text =>
    fitsSteps more text ||
      match text with
      | [] => false
      | _ :: rest => fitsSteps (.anyText :: more) rest
  | step :: more, c :: rest => step.fits c && fitsSteps more rest
  | _ :: _, [] => false
termination_by steps text => steps.length + text.length

def allSteps (p : Pattern) : List Step := steps (p.length + 1) p

def fits (p : Pattern) (text : List Char) : Bool := fitsSteps (allSteps p) text

/-- The pattern has a character that can fit others. -/
def isActive (p : Pattern) : Bool :=
  p.any fun (quoted, c) => !quoted && (c == '*' || c == '?' || c == '[')

/-- The text without the part at its end or start that the pattern fits: the longest such part or the
shortest. -/
def trimmed (p : Pattern) (fromEnd longest : Bool) (text : List Char) : List Char :=
  let ss := allSteps p
  let sizes := List.range (text.length + 1)
  let sizes := if longest then sizes.reverse else sizes
  if fromEnd then
    match sizes.find? fun n => fitsSteps ss (text.drop (text.length - n)) with
    | some n => text.take (text.length - n)
    | none => text
  else
    match sizes.find? fun n => fitsSteps ss (text.take n) with
    | some n => text.drop n
    | none => text

/-- A text as a pattern without quotes. -/
def plain (text : List Char) : Pattern := text.map fun c => (false, c)

example : fits (plain "a*[!b-d]?".toList) "axyez".toList := by decide +kernel
example : ¬ fits (plain "[[:digit:]]".toList) "x".toList := by decide +kernel
example : trimmed (plain ".*".toList) true false "a.tar.gz".toList = "a.tar".toList := by decide +kernel
example : trimmed (plain "*.".toList) false true "a.tar.gz".toList = "gz".toList := by decide +kernel

end Pattern

end Shell

end BuildPlan
