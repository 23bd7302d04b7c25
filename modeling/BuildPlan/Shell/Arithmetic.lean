import BuildPlan.Shell.Decimal
import BuildPlan.Shell.Script

/-!
# Expressions in scripts

An expression computes with whole numbers of 64 bits. It may read variables and assign them.

* `Expression.read` reads the text of an expression.
* `Expression.evaluate` computes it in a scope, which looks variables up and takes assignments.

The operators bind as usual: from `||` by way of `&&`, `|`, `^`, `&`, comparisons, shifts, sums and
products to signs. Only the branch that is taken is computed.
-/

namespace BuildPlan

namespace Shell

/-- An operator on two numbers. -/
inductive Operator where
  | times | quotient | remainder | plus | minus | shiftLeft | shiftRight | less | lessEqual | greater
  | greaterEqual | equal | unequal | bitAnd | bitXor | bitOr
deriving DecidableEq

namespace Operator

def ofText? : String → Option Operator
  | "*" => some .times
  | "/" => some .quotient
  | "%" => some .remainder
  | "+" => some .plus
  | "-" => some .minus
  | "<<" => some .shiftLeft
  | ">>" => some .shiftRight
  | "<" => some .less
  | "<=" => some .lessEqual
  | ">" => some .greater
  | ">=" => some .greaterEqual
  | "==" => some .equal
  | "!=" => some .unequal
  | "&" => some .bitAnd
  | "^" => some .bitXor
  | "|" => some .bitOr
  | _ => none

/-- How closely an operator binds. -/
def rank : Operator → Nat
  | .times => 8
  | .quotient => 8
  | .remainder => 8
  | .plus => 7
  | .minus => 7
  | .shiftLeft => 6
  | .shiftRight => 6
  | .less => 5
  | .lessEqual => 5
  | .greater => 5
  | .greaterEqual => 5
  | .equal => 4
  | .unequal => 4
  | .bitAnd => 3
  | .bitXor => 2
  | .bitOr => 1

/-- A truth value as a number. -/
def truth (b : Bool) : Int64 := if b then 1 else 0

/-- The value of an operator, unless it divides by zero. -/
def compute? (o : Operator) (a b : Int64) : Option Int64 :=
  match o with
  | .times => some (a * b)
  | .quotient => if b = 0 then none else some (a / b)
  | .remainder => if b = 0 then none else some (a % b)
  | .plus => some (a + b)
  | .minus => some (a - b)
  | .shiftLeft => some (a <<< b)
  | .shiftRight => some (a >>> b)
  | .less => some (truth (a < b))
  | .lessEqual => some (truth (a ≤ b))
  | .greater => some (truth (b < a))
  | .greaterEqual => some (truth (b ≤ a))
  | .equal => some (truth (a = b))
  | .unequal => some (truth (a ≠ b))
  | .bitAnd => some (a &&& b)
  | .bitXor => some (a ^^^ b)
  | .bitOr => some (a ||| b)

end Operator

inductive Expression where
  | number (n : Int64)
  | variable (name : List Char)
  /-- A variable takes a value, perhaps joined to its own by an operator. -/
  | assign (name : List Char) (operator : Option Operator) (value : Expression)
  /-- The number below zero. -/
  | negated (e : Expression)
  | isZero (e : Expression)
  | complement (e : Expression)
  /-- An operator on two numbers. -/
  | binary (o : Operator) (a b : Expression)
  | both (a b : Expression)
  | either (a b : Expression)
  /-- One of two, as the first is zero or not. -/
  | choose (condition yes no : Expression)

namespace Expression

/-- A lexical unit of an expression. -/
inductive Unit where
  | number (n : Int64)
  | name (cs : List Char)
  | sign (text : String)
deriving DecidableEq

/-- The operators, longer ones first. -/
def signs : List String :=
  ["<<=", ">>=", "<<", ">>", "<=", ">=", "==", "!=", "&&", "||", "+=", "-=", "*=", "/=", "%=", "&=",
    "^=", "|=", "+", "-", "*", "/", "%", "<", ">", "=", "!", "~", "&", "^", "|", "?", ":", "(", ")"]

/-- The units of a text. The number bounds how many there are. -/
def units : Nat → List Char → List Unit
  | 0, _ => []
  | _ + 1, [] => []
  | bound + 1, c :: rest =>
    if c = ' ' ∨ c = '\t' ∨ c = '\n' then units bound rest
    else if c.isDigit then
      match Decimal.unsigned true (c :: rest) with
      | some (n, left) => .number (Int64.ofInt (Decimal.clamped n)) :: units bound left
      | none => [.sign ""]
    else if startsName c then
      .name ((c :: rest).takeWhile isNameChar) :: units bound ((c :: rest).dropWhile isNameChar)
    else
      match signs.find? fun s => s.toList.isPrefixOf (c :: rest) with
      | some s => .sign s :: units bound ((c :: rest).drop s.length)
      | none => [.sign ""]

abbrev Reading := StateT (List Unit) (Except String)

/-- Take the next unit if it is this sign. -/
def accept (s : String) : Reading Bool := do
  match ← get with
  | .sign t :: rest => if s = t then do set rest; return true else return false
  | _ => return false

/-- Take the next unit if it is an operator on two numbers that binds at least so closely. -/
def operator? (rank : Nat) : Reading (Option Operator) := do
  match ← get with
  | .sign t :: rest =>
    match Operator.ofText? t with
    | some o =>
      if rank ≤ o.rank then do
        set rest
        return some o
      else return none
    | none => return none
  | _ => return none

/-- The operator of an assignment, if the sign is one. -/
def assignment? (s : String) : Option (Option Operator) :=
  if s = "=" then some none
  else if ["==", "<=", ">=", "!="].contains s then none
  else
    match s.toList.reverse with
    | '=' :: operator => (Operator.ofText? (String.ofList operator.reverse)).map some
    | _ => none

mutual

def assignment : Nat → Reading Expression
  | 0 => throw "expression too long"
  | fuel + 1 => do
    match ← get with
    | .name n :: .sign s :: rest =>
      match assignment? s with
      | some o =>
        set rest
        return .assign n o (← assignment fuel)
      | none => conditional fuel
    | _ => conditional fuel

/-- Read a choice or what is none. -/
def conditional : Nat → Reading Expression
  | 0 => throw "expression too long"
  | fuel + 1 => do
    let condition ← disjunction fuel
    if ← accept "?" then
      let yes ← assignment fuel
      if !(← accept ":") then throw "expecting ':'"
      return .choose condition yes (← conditional fuel)
    else return condition

/-- Read terms joined by `||`. -/
def disjunction : Nat → Reading Expression
  | 0 => throw "expression too long"
  | fuel + 1 => do
    let a ← conjunction fuel
    if ← accept "||" then return .either a (← disjunction fuel) else return a

/-- Read terms joined by `&&`. -/
def conjunction : Nat → Reading Expression
  | 0 => throw "expression too long"
  | fuel + 1 => do
    let a ← binaries fuel 1 (← primary fuel)
    if ← accept "&&" then return .both a (← conjunction fuel) else return a

/-- Read the operators after a term that bind at least so closely. -/
def binaries : Nat → Nat → Expression → Reading Expression
  | 0, _, _ => throw "expression too long"
  | fuel + 1, rank, a => do
    match ← operator? rank with
    | none => return a
    | some o =>
      let b ← binaries fuel (o.rank + 1) (← primary fuel)
      binaries fuel rank (.binary o a b)

def primary : Nat → Reading Expression
  | 0 => throw "expression too long"
  | fuel + 1 => do
    match ← get with
    | .number n :: rest => set rest; return .number n
    | .name n :: rest => set rest; return .variable n
    | .sign "(" :: rest =>
      set rest
      let e ← assignment fuel
      if !(← accept ")") then throw "expecting ')'"
      return e
    | .sign "+" :: rest => set rest; primary fuel
    | .sign "-" :: rest => set rest; return .negated (← primary fuel)
    | .sign "!" :: rest => set rest; return .isZero (← primary fuel)
    | .sign "~" :: rest => set rest; return .complement (← primary fuel)
    | _ => throw "expecting primary"

end

def read (text : List Char) : Except String Expression := do
  let us := units (text.length + 1) text
  let (e, left) ← (assignment (8 * us.length + 16)).run us
  if left.isEmpty then return e else throw "expecting EOF"

/-- The variables that an expression is computed with. -/
structure Scope where
  /-- The text of a variable. -/
  look : List Char → List Char
  /-- The assignments made, the last one first. -/
  assigned : List (List Char × Int64) := []

/-- Why an expression has no value. -/
inductive Fault where
  | divisionByZero
  /-- A variable holds no number. -/
  | notNumber (value : List Char)
deriving DecidableEq

abbrev Computing := StateT Scope (Except Fault)

/-- The number that a variable holds. An empty variable holds zero. -/
def valueOf (name : List Char) : Computing Int64 := do
  let s ← get
  match s.assigned.lookup name with
  | some n => return n
  | none =>
    let value := s.look name
    if value.all Decimal.isBlank then return 0
    else
      match Decimal.whole? value true with
      | some n => return Int64.ofInt n
      | none => throw (.notNumber value)

def combined (o : Operator) (a b : Int64) : Computing Int64 :=
  match o.compute? a b with
  | some n => return n
  | none => throw .divisionByZero

def evaluate : Expression → Computing Int64
  | .number n => return n
  | .variable name => valueOf name
  | .assign name o value => do
    let n ← value.evaluate
    let n ← match o with
      | none => pure n
      | some o => do combined o (← valueOf name) n
    modify fun s => { s with assigned := (name, n) :: s.assigned }
    return n
  | .negated e => do return -(← e.evaluate)
  | .isZero e => do return Operator.truth ((← e.evaluate) = 0)
  | .complement e => do return ~~~(← e.evaluate)
  | .binary o a b => do
    let m ← a.evaluate
    let n ← b.evaluate
    combined o m n
  | .both a b => do
    if (← a.evaluate) = 0 then return 0
    else return Operator.truth ((← b.evaluate) ≠ 0)
  | .either a b => do
    if (← a.evaluate) ≠ 0 then return 1
    else return Operator.truth ((← b.evaluate) ≠ 0)
  | .choose condition yes no => do
    if (← condition.evaluate) ≠ 0 then yes.evaluate else no.evaluate

/-- The value of a text without variables, for the examples. -/
private def plainValue (text : String) : Option Int64 :=
  match read text.toList with
  | .ok e =>
    match (e.evaluate.run { look := fun _ => [] }) with
    | .ok (n, _) => some n
    | .error _ => none
  | .error _ => none

example : plainValue "1 + 2 * 3 - -4" = some 11 := by decide +kernel
example : plainValue "-7 % 3" = some (-1) ∧ plainValue "1 / 0" = none := by decide +kernel
example : plainValue "x = 5, y" = none ∧ plainValue "(x = 5) * x" = some 25 := by decide +kernel

end Expression

end Shell

end BuildPlan
