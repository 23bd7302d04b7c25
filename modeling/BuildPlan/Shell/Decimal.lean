import BuildPlan.Shell.Letters

/-!
# Numbers in scripts

* `Decimal.natural` is the number that decimal digits spell.
* `Decimal.leading` reads a number at the start of a text: blanks, a sign, digits. If any base is
  allowed, `0x` starts a hexadecimal number and `0` an octal one.
* `Decimal.whole?` reads a text as a whole number of 64 bits, with blanks around it, and
  `Decimal.count?` as one that a builtin can count with.
-/

namespace BuildPlan

namespace Shell

namespace Decimal

/-- The value of a digit, in bases up to sixteen. -/
def digit? (c : Char) : Option Nat :=
  if c.isDigit then some (c.toNat - '0'.toNat)
  else if 'a' ≤ c ∧ c ≤ 'f' then some (c.toNat - 'a'.toNat + 10)
  else if 'A' ≤ c ∧ c ≤ 'F' then some (c.toNat - 'A'.toNat + 10)
  else none

/-- The character is a digit in a base. -/
def isDigitIn (base : Nat) (c : Char) : Bool := (digit? c).any fun d => decide (d < base)

/-- The number that digits spell in a base. -/
def valueIn (base : Nat) (digits : List Char) : Nat :=
  digits.foldl (fun n c => n * base + (digit? c).getD 0) 0

/-- The number that decimal digits spell. -/
def natural (digits : List Char) : Nat := valueIn 10 digits

/-- The digits of a word, if it has nothing else and at least one. -/
def digits? (cs : List Char) : Option Nat :=
  if cs.isEmpty || !cs.all Char.isDigit then none else some (natural cs)

def isBlank (c : Char) : Bool := c == ' ' || (decide (9 ≤ c.toNat) && decide (c.toNat ≤ 13))

/-- A number without a sign at the start of a text, and what comes after it. -/
def unsigned (anyBase : Bool) (cs : List Char) : Option (Nat × List Char) :=
  let reads (base : Nat) (cs : List Char) : Option (Nat × List Char) :=
    let digits := cs.takeWhile (isDigitIn base)
    if digits.isEmpty then none else some (valueIn base digits, cs.dropWhile (isDigitIn base))
  match anyBase, cs with
  | true, '0' :: x :: rest =>
    if x = 'x' ∨ x = 'X' then (reads 16 rest).or (reads 8 cs) else reads 8 cs
  | _, cs => reads 10 cs

/-- A number at the start of a text, after blanks, and what comes after it. -/
def leading (anyBase : Bool) (cs : List Char) : Option (Int × List Char) :=
  match cs.dropWhile isBlank with
  | '-' :: rest => (unsigned anyBase rest).map fun (n, left) => (-(n : Int), left)
  | '+' :: rest => (unsigned anyBase rest).map fun (n, left) => ((n : Int), left)
  | rest => (unsigned anyBase rest).map fun (n, left) => ((n : Int), left)

/-- The least number of 64 bits. -/
def least : Int := -9223372036854775808

/-- The greatest number of 64 bits. -/
def greatest : Int := 9223372036854775807

/-- The number has 64 bits. -/
def isRepresentable (n : Int) : Bool := decide (least ≤ n) && decide (n ≤ greatest)

/-- The number nearest to one that has 64 bits. -/
def clamped (n : Int) : Int := max least (min greatest n)

/-- The whole number that a text spells, blanks around it dropped. -/
def whole? (cs : List Char) (anyBase : Bool := false) : Option Int :=
  match leading anyBase cs with
  | some (n, rest) => if rest.all isBlank && isRepresentable n then some n else none
  | none => none

/-- The number that a text spells for a builtin: it has 31 bits and no sign. -/
def count? (cs : List Char) : Option Nat :=
  match whole? cs with
  | some n => if 0 ≤ n ∧ n ≤ 2147483647 then some n.toNat else none
  | none => none

example : whole? " -12 ".toList = some (-12) ∧ whole? "1x".toList = none := by decide
example : leading true "0x1Fg".toList = some (31, ['g']) ∧ leading true "08".toList = some (0, ['8']) := by
  decide

end Decimal

end Shell

end BuildPlan
