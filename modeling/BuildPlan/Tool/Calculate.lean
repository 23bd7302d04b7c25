import BuildPlan.Tool.Basic
import BuildPlan.Tool.Regex

/-!
# Calculating

`expr` works out an expression given word by word and prints its value, which is a text. Texts that spell
whole numbers can be calculated with.

* `Calculation.value` works an expression out.
-/

namespace BuildPlan

open Shell (Step)

namespace Tool

namespace Calculation

/-- What is left of the words, and the last word taken. -/
structure Cursor where
  rest : List (List Char)
  last : List Char := []

/-- Working out takes words, and fails with a complaint. -/
abbrev Working := StateT Cursor (Except (List Char))

/-- The whole number that a text spells. -/
def integer? (text : List Char) : Option Int :=
  match text with
  | '-' :: rest => (Shell.Decimal.digits? rest).map fun n => -(n : Int)
  | rest => (Shell.Decimal.digits? rest).map Int.ofNat

/-- The value stands for no: it is empty, or a zero. -/
def isNull (text : List Char) : Bool := text.isEmpty || integer? text == some 0

/-- Take the next word if it is among some. -/
def accept (words : List String) : Working (Option String) := do
  let c ← get
  match c.rest with
  | w :: rest =>
    if words.contains (String.ofList w) then
      set ({ rest := rest, last := w } : Cursor)
      return some (String.ofList w)
    else return none
  | [] => return none

def take : Working (List Char) := do
  let c ← get
  match c.rest with
  | w :: rest =>
    set ({ rest := rest, last := w } : Cursor)
    return w
  | [] => throw ("syntax error: missing argument after ".toList ++ inQuotes c.last)

/-- The whole number that a value spells. -/
def integer (text : List Char) : Working Int :=
  match integer? text with
  | some n => return n
  | none => throw "non-integer argument".toList

/-- What comes of fitting an expression to the start of a text: what its first group fits, or how much
fits. -/
def fitted (text expression : List Char) : Working (List Char) := do
  match Regex.read false expression with
  | .error why => throw why.toList
  | .ok r =>
    let s : Regex.Subject := ⟨text.toArray, false⟩
    let hasGroup := hasGroups r
    match Regex.longest? s r 0 with
    | none => return if hasGroup then [] else ['0']
    | some way =>
      if hasGroup then return Regex.Fit.group ⟨0, way⟩ s 1
      else return Letters.ofNat way.position
where
  hasGroups : Regex → Bool
    | .group _ _ => true
    | .sequence a b => hasGroups a || hasGroups b
    | .either a b => hasGroups a || hasGroups b
    | .repeated r _ _ => hasGroups r
    | _ => false

/-- Apply an operator on whole numbers. -/
def compute (operator : String) (a b : Int) : Working Int :=
  match operator with
  | "+" => return a + b
  | "-" => return a - b
  | "*" => return a * b
  | _ =>
    if b = 0 then throw "division by zero".toList
    else return if operator = "/" then Int.tdiv a b else Int.tmod a b

/-- Compare values: as numbers if both spell some. -/
def compared (operator : String) (a b : List Char) : Bool :=
  let (less, same) := match integer? a, integer? b with
    | some m, some n => (decide (m < n), decide (m = n))
    | _, _ => (!Letters.before b a, decide (a = b))
  match operator with
  | "<" => less
  | "<=" => less || same
  | ">" => !(less || same)
  | ">=" => !less
  | "!=" => !same
  | _ => same

mutual

/-- An expression with the operators of a level and those that bind more closely. -/
def level : Nat → Nat → Working (List Char)
  | 0, _ => throw "syntax error".toList
  | fuel + 1, n => do
    let first ← if n = 5 then primary fuel else level fuel (n + 1)
    chain fuel n first

/-- The rest of an expression with the operators of a level. -/
def chain : Nat → Nat → List Char → Working (List Char)
  | 0, _, _ => throw "syntax error".toList
  | fuel + 1, n, a => do
    let operators : List String := match n with
      | 0 => ["|"]
      | 1 => ["&"]
      | 2 => ["<", "<=", "=", "==", "!=", ">=", ">"]
      | 3 => ["+", "-"]
      | 4 => ["*", "/", "%"]
      | _ => [":"]
    match ← accept operators with
    | none => return a
    | some operator =>
      let b ← if n = 5 then primary fuel else level fuel (n + 1)
      let value : List Char ← match n with
        | 0 => pure (if isNull a then (if isNull b then ['0'] else b) else a)
        | 1 => pure (if isNull a || isNull b then ['0'] else a)
        | 2 => pure (if compared operator a b then ['1'] else ['0'])
        | 5 => fitted a b
        | _ => do pure (Letters.ofInt (← compute operator (← integer a) (← integer b)))
      chain fuel n value

/-- A word, a function of words, or an expression in parentheses. -/
def primary : Nat → Working (List Char)
  | 0 => throw "syntax error".toList
  | fuel + 1 => do
    match ← accept ["+", "(", ")", "length", "match", "index", "substr"] with
    | none => take
    | some "+" => take
    | some "(" =>
      let value ← level fuel 0
      match ← accept [")"] with
      | some _ => return value
      | none =>
        let c ← get
        match c.rest with
        | [] => throw ("syntax error: expecting ')' after ".toList ++ inQuotes c.last)
        | w :: _ => throw ("syntax error: expecting ')' instead of ".toList ++ inQuotes w)
    | some ")" => throw "syntax error: unexpected ')'".toList
    | some "length" => return Letters.ofNat (← primary fuel).length
    | some "match" =>
      let text ← primary fuel
      fitted text (← primary fuel)
    | some "index" =>
      let text ← primary fuel
      let set_ ← primary fuel
      return Letters.ofNat ((text.findIdx? set_.contains).elim 0 (· + 1))
    | some _ =>
      let text ← primary fuel
      let position ← primary fuel
      let size ← primary fuel
      match integer? position, integer? size with
      | some p, some n =>
        if p ≤ 0 || n ≤ 0 then return [] else return (text.drop (p.toNat - 1)).take n.toNat
      | _, _ => return []

end

/-- Work an expression out. -/
def value (words : List (List Char)) : Except (List Char) (List Char) := do
  let (v, c) ← (level (16 * words.length + 16) 0).run { rest := words }
  match c.rest with
  | [] => return v
  | [')'] :: _ => throw "syntax error: unexpected ')'".toList
  | w :: _ => throw ("syntax error: unexpected argument ".toList ++ inQuotes w)

end Calculation

/-- Work an expression out and print its value. -/
def expr : Tool := fun name arguments => do
  let words := if arguments.head? = some ['-', '-'] then arguments.drop 1 else arguments
  if words.isEmpty then misused name "missing operand".toList 2
  match Calculation.value words with
  | .error why => refuse name why 2
  | .ok v =>
    setStatus (if Calculation.isNull v then 1 else 0)
    sayLines name [v]

private def valueText (words : List String) : Option String :=
  (Calculation.value (words.map String.toList)).toOption.map String.ofList

example : valueText ["(", "1", "+", "2", ")", "*", "3"] = some "9" := by decide +kernel
example : valueText ["abc", ":", "a\\(b\\)"] = some "b" := by decide +kernel
example : valueText ["1", "+"] = none ∧ valueText ["7", "/", "0"] = none := by decide +kernel

end Tool

end BuildPlan
