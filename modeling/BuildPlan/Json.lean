/-!
# JSON values and their indented text

A finished graph can be shown as JSON. Only what a graph needs is here: null, flags, texts, lists and
records, whose fields keep the order they are given in.

* `Json.lines` writes a value as lines, two spaces deeper for each level; `Json.pretty` joins them.
* An empty list is `[]` and an empty record `{ }` without the blank, both on the line they start on.
* `Json.quote` writes a text: quotes, backslashes and control characters below the blank are escaped,
  everything else stands for itself.
-/

namespace BuildPlan

inductive Json where
  | null
  | flag (value : Bool)
  | text (value : String)
  | list (items : List Json)
  /-- Named values in order. -/
  | record (fields : List (String × Json))

namespace Json

/-! ### Texts -/

/-- Two lower-case hexadecimal digits. -/
def twoDigits (n : Nat) : List Char := [Nat.digitChar (n / 16 % 16), Nat.digitChar (n % 16)]

/-- One character of a text. -/
def escape (c : Char) : List Char :=
  match c with
  | '"' => ['\\', '"']
  | '\\' => ['\\', '\\']
  | '\n' => ['\\', 'n']
  | '\r' => ['\\', 'r']
  | '\t' => ['\\', 't']
  | '\x08' => ['\\', 'b']
  | '\x0c' => ['\\', 'f']
  | c => if c.toNat < 0x20 then ['\\', 'u', '0', '0'] ++ twoDigits c.toNat else [c]

/-- A text between double quotes. -/
def quote (s : String) : String := String.ofList (['"'] ++ s.toList.flatMap escape ++ ['"'])

/-! ### Lines -/

/-- Add something to the last line. -/
def closeWith (mark : String) : List String → List String
  | [] => []
  | [line] => [line ++ mark]
  | line :: rest => line :: closeWith mark rest

/-- The blocks of lines one after the other, each but the last closed with a comma. -/
def separated : List (List String) → List String
  | [] => []
  | [block] => block
  | block :: rest => closeWith "," block ++ separated rest

/-- Blocks between two brackets and two spaces deeper, or the two brackets alone. -/
def bracketed (opening closing : String) (blocks : List (List String)) : List String :=
  match blocks with
  | [] => [opening ++ closing]
  | blocks => [opening] ++ (separated blocks).map ("  " ++ ·) ++ [closing]

/-- Put the name of a field before its first line. -/
def named (name : String) : List String → List String
  | [] => []
  | line :: rest => (quote name ++ ": " ++ line) :: rest

mutual

def lines : Json → List String
  | .null => ["null"]
  | .flag value => [if value then "true" else "false"]
  | .text value => [quote value]
  | .list items => bracketed "[" "]" (itemBlocks items)
  | .record fields => bracketed "\x7b" "\x7d" (fieldBlocks fields)

def itemBlocks : List Json → List (List String)
  | [] => []
  | item :: rest => item.lines :: itemBlocks rest

def fieldBlocks : List (String × Json) → List (List String)
  | [] => []
  | (name, value) :: rest => named name value.lines :: fieldBlocks rest

end

/-- The value as indented text. -/
def pretty (v : Json) : String := "\n".intercalate v.lines

example : quote "a\"\x1f\x7fé\n" = "\"a\\\"\\u001f\x7fé\\n\"" := by decide
example : (record [("a", list [text "x", null]), ("b", list []), ("c", record [])]).lines =
    ["\x7b", "  \"a\": [", "    \"x\",", "    null", "  ],", "  \"b\": [],", "  \"c\": \x7b\x7d",
      "\x7d"] := by decide

end Json

end BuildPlan
