import BuildPlan.Text.Utf8

/-!
# Bytes as characters

Scripts and tools work on bytes. A byte is written as the character of its number, a *letter*, so that
text and bytes are both lists of characters.

* `Letters.ofBytes` and `Letters.toBytes` go back and forth.
* `Letters.ofText` gives the letters of a text, `Letters.toText` the text that letters spell.
-/

namespace BuildPlan

namespace Letters

def ofBytes (bytes : List UInt8) : List Char := bytes.map fun b => Char.ofNat b.toNat

def toBytes (letters : List Char) : List UInt8 := letters.map fun c => c.toNat.toUInt8

def ofText (text : String) : List Char := ofBytes (Utf8.encode text)

/-- The text that letters spell, with replacement characters where they spell none. -/
def toText (letters : List Char) : String := Utf8.decodeLossy (toBytes letters)

/-- Texts with one space between two of them. -/
def spaced (texts : List (List Char)) : List Char := [' '].intercalate texts

/-- The number in decimal digits. -/
def ofNat (n : Nat) : List Char := (toString n).toList

/-- The number in decimal digits, with a sign if it is negative. -/
def ofInt (n : Int) : List Char := (toString n).toList

/-- The letters have another text at their start: what comes after it. -/
def after? (start letters : List Char) : Option (List Char) := start.isPrefixOf? letters

/-- The text cut at line ends. A line end at the very end starts no line. -/
def lines (letters : List Char) : List (List Char) :=
  let pieces := letters.splitOn '\n'
  if pieces.getLast? = some [] then pieces.dropLast else pieces

/-- Lines, each with its end. -/
def unlines (ls : List (List Char)) : List Char := ls.flatMap fun l => l ++ ['\n']

/-- The text without the line ends after it. -/
def withoutLineEnds (letters : List Char) : List Char := (letters.reverse.dropWhile (· = '\n')).reverse

/-- Letters come before others byte by byte. -/
def before : List Char → List Char → Bool
  | [], _ => true
  | _ :: _, [] => false
  | a :: as, b :: bs => if a = b then before as bs else decide (a.toNat < b.toNat)

/-- Texts sorted byte by byte. -/
def sorted (texts : List (List Char)) : List (List Char) := texts.mergeSort before

example : ofText "é" = ['Ã', '©'] ∧ toText ['Ã', '©'] = "é" := by decide
example : lines "a\n\nb\n".toList = ["a".toList, [], "b".toList] := by decide
example : before "a".toList "ab".toList ∧ ¬ before "b".toList "ab".toList := by decide

end Letters

end BuildPlan
