/-!
# White space, words and trimming

White space is the Unicode property White_Space: twenty-five characters, among them the no-break
spaces and the line separators, but not the zero-width space U+200B, the mark U+FEFF or the
information separators U+001C to U+001F.

* `isBlank` decides it.
* `words` cuts a text into its maximal runs of other characters.
* `unwords` writes words with one space between two of them.
* `trim` drops the white space at both ends.
-/

namespace BuildPlan

namespace Text

/-- The ranges of white-space characters, both ends included. -/
def blankRanges : List (Nat × Nat) :=
  [(0x09, 0x0D), (0x20, 0x20), (0x85, 0x85), (0xA0, 0xA0), (0x1680, 0x1680), (0x2000, 0x200A),
   (0x2028, 0x2029), (0x202F, 0x202F), (0x205F, 0x205F), (0x3000, 0x3000)]

/-- The number lies in one of the ranges, both ends included. -/
def inRanges (ranges : List (Nat × Nat)) (n : Nat) : Bool :=
  ranges.any fun r => decide (r.1 ≤ n) && decide (n ≤ r.2)

/-- The character is white space. -/
def isBlank (c : Char) : Bool := inRanges blankRanges c.toNat

/-- The maximal runs of characters that are not white space, in order. -/
def words (cs : List Char) : List (List Char) := (cs.splitOnP isBlank).filter (· ≠ [])

/-- Words with one space between two neighbours. -/
def unwords (ws : List (List Char)) : List Char := [' '].intercalate ws

/-- The text without the white space at its ends. -/
def trim (cs : List Char) : List Char :=
  ((cs.dropWhile isBlank).reverse.dropWhile isBlank).reverse

/-- No word is empty. -/
theorem ne_nil_of_mem_words {cs w : List Char} (h : w ∈ words cs) : w ≠ [] := by
  simpa using (List.mem_filter.1 h).2

example : words " a\u00a0b\n ".toList = [['a'], ['b']] := by decide
example : isBlank '\u200b' = false ∧ isBlank '\u001c' = false := by decide
example : trim "\n a b\t".toList = "a b".toList := by decide

end Text

end BuildPlan
