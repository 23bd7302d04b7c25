/-!
# How alike two words are

A mistyped name is answered with the name that was meant. Two words are compared by the characters they
have in common at about the same place.

* `Likeness.pairing` pairs equal characters of two words that stand no further apart than half the
  longer word, less one. Each character is used once, and earlier ones are served first.
* `Likeness.of` is the mean of three shares: how much of the first word is paired, how much of the
  second, and how many of the pairs come in the same order in both. It is a fraction.
* `Likeness.closest?` picks the best of some candidates, the last of equally good ones, if any is alike
  enough.
-/

namespace BuildPlan

namespace Text

structure Likeness where
  numerator : Nat
  denominator : Nat
deriving DecidableEq

namespace Likeness

/-- The first fraction is less than the second. -/
def less (a b : Likeness) : Bool :=
  decide (a.numerator * b.denominator < b.numerator * a.denominator)

/-- Pair a character with the first equal one that is free and stands between two places. What comes
back is the other word with that character taken. -/
def take? (c : Char) (low high : Nat) : Nat → List (Char × Bool) → Option (List (Char × Bool))
  | _, [] => none
  | place, (d, taken) :: rest =>
    if high < place then none
    else if low ≤ place ∧ c = d ∧ taken = false then some ((d, true) :: rest)
    else (take? c low high (place + 1) rest).map ((d, taken) :: ·)

/-- The characters of the first word that are paired, in order, and the second word with the paired
ones taken. -/
def pairing (reach : Nat) : Nat → List Char → List (Char × Bool) → List Char × List (Char × Bool)
  | _, [], other => ([], other)
  | place, c :: rest, other =>
    match take? c (place - reach) (place + reach) 0 other with
    | none => pairing reach (place + 1) rest other
    | some other =>
      let (paired, other) := pairing reach (place + 1) rest other
      (c :: paired, other)

/-- The likeness of two words. -/
def of (a b : List Char) : Likeness :=
  let reach := max a.length b.length / 2 - 1
  let (first, marked) := pairing reach 0 a (b.map (·, false))
  let second := (marked.filter Prod.snd).map Prod.fst
  let pairs := first.length
  let crossed := ((first.zip second).countP fun q => q.1 ≠ q.2) / 2
  if pairs = 0 then ⟨0, 1⟩
  else
    ⟨pairs * b.length * pairs + pairs * a.length * pairs + (pairs - crossed) * a.length * b.length,
      3 * a.length * b.length * pairs⟩

/-- Less than this is not alike. -/
def threshold : Likeness := ⟨7, 10⟩

/-- The candidate that is most like a word, if any is more than alike enough. -/
def closest? (word : List Char) (candidates : List String) : Option String :=
  (candidates.foldl (fun best name =>
    let l := of word name.toList
    if threshold.less l then
      match best with
      | some (_, m) => if l.less m then best else some (name, l)
      | none => some (name, l)
    else best) (none : Option (String × Likeness))).map Prod.fst

example : (of "martha".toList "marhta".toList).less ⟨945, 1000⟩ = true := by decide
example : closest? "verbos".toList ["version", "verbose", "help"] = some "verbose" := by decide
example : closest? "x".toList ["version", "verbose", "help"] = none := by decide

end Likeness

end Text

end BuildPlan
