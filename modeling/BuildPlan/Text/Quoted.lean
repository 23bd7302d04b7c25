import BuildPlan.Text.Attaching
import BuildPlan.Text.Blank
import BuildPlan.Text.Glyphless

/-!
# Quoted text in messages

A text that may hold anything is shown between double quotes, every character of it visible.

* `Quoted.character` writes one character: `\0 \t \r \n \" \\` for the six with a short form,
  `\u` and the hexadecimal number in braces for those that attach to their neighbour or have no
  glyph, and itself otherwise. A single quote stands as it is.
* `Quoted.text` writes a text, `Quoted.list` a list of texts in square brackets.
-/

namespace BuildPlan

namespace Quoted

/-- The character cannot be shown as itself. -/
def isHidden (c : Char) : Bool :=
  if c.toNat < 0x7F then c.toNat < 0x20
  else
    [Text.attachingRanges, Text.glyphlessRanges, Text.fillerRanges].any (Text.inRanges · c.toNat)

/-- A hidden character by its number: lower-case hexadecimal, no leading zeros. -/
def byNumber (c : Char) : List Char :=
  ['\\', 'u', '\x7b'] ++ Nat.toDigits 16 c.toNat ++ ['\x7d']

/-- One character inside the quotes. -/
def character (c : Char) : List Char :=
  match c with
  | '\x00' => ['\\', '0']
  | '\t' => ['\\', 't']
  | '\r' => ['\\', 'r']
  | '\n' => ['\\', 'n']
  | '"' => ['\\', '"']
  | '\\' => ['\\', '\\']
  | c => if isHidden c then byNumber c else [c]

/-- A text between double quotes. -/
def text (s : String) : String :=
  String.ofList (['"'] ++ s.toList.flatMap character ++ ['"'])

/-- A list of texts, each quoted, between square brackets. -/
def list (ss : List String) : String := "[" ++ ", ".intercalate (ss.map text) ++ "]"

example : text "a\x00b'\"" = "\"a\\0b'\\\"\"" := by decide
example : text "e\u0301\u00a0" = "\"e\\u\x7b301\x7d\\u\x7ba0\x7d\"" := by decide +kernel
example : list ["--foo", "a b"] = "[\"--foo\", \"a b\"]" := by decide +kernel

end Quoted

end BuildPlan
