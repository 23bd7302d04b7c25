/-!
# Reading bytes as text

The environment hands over bytes: the words of a command line, the search path, the output of a
helper program. This file reads them as UTF-8, one byte at a time.

* `Utf8.scan` splits a byte list into characters and *malformed runs*. A malformed run is a longest
  stretch of bytes that starts a well-formed sequence without finishing it, or a single byte that
  can start none.
* `Utf8.decode` accepts the bytes only when no run is malformed.
* `Utf8.decodeLossy` puts one U+FFFD in the place of each malformed run.
* `Utf8.encode` writes text as bytes.

Overlong forms, surrogates and values past U+10FFFF never start to be read: the lead byte narrows
the range of the byte after it (`Pending.low`, `Pending.high`).
-/

namespace BuildPlan

namespace Utf8

/-- A multi-byte sequence under way. -/
structure Pending where
  /-- The bits read so far. -/
  value : Nat
  /-- How many bytes are still to come after the next one. -/
  later : Nat
  /-- The least value the next byte may have. -/
  low : UInt8
  /-- The greatest value the next byte may have. -/
  high : UInt8
deriving DecidableEq

/-- What one byte at the start of a sequence amounts to. -/
inductive Lead where
  /-- A character of its own. -/
  | whole (c : Char)
  /-- The start of a longer sequence. -/
  | opens (p : Pending)
  /-- A byte that starts nothing. -/
  | malformed
deriving DecidableEq

/-- Classify a lead byte. The second byte after E0, ED, F0 and F4 has a narrower range than the
others, which rules out overlong forms, surrogates and values past the last scalar. -/
def lead (b : UInt8) : Lead :=
  if b < 0x80 then .whole (Char.ofNat b.toNat)
  else if b < 0xC2 then .malformed
  else if b < 0xE0 then .opens ⟨b.toNat - 0xC0, 0, 0x80, 0xBF⟩
  else if b = 0xE0 then .opens ⟨0, 1, 0xA0, 0xBF⟩
  else if b = 0xED then .opens ⟨0xD, 1, 0x80, 0x9F⟩
  else if b < 0xF0 then .opens ⟨b.toNat - 0xE0, 1, 0x80, 0xBF⟩
  else if b = 0xF0 then .opens ⟨0, 2, 0x90, 0xBF⟩
  else if b < 0xF4 then .opens ⟨b.toNat - 0xF0, 2, 0x80, 0xBF⟩
  else if b = 0xF4 then .opens ⟨4, 2, 0x80, 0x8F⟩
  else .malformed

/-- The characters of a byte list in order, `none` for each malformed run. The first argument is
the sequence under way, if any. A byte that cannot continue the sequence under way ends it as a
malformed run and is read again as a lead byte. -/
def scanFrom : Option Pending → List UInt8 → List (Option Char)
  | none, [] => []
  | some _, [] => [none]
  | none, b :: bs =>
    match lead b with
    | .whole c => some c :: scanFrom none bs
    | .opens p => scanFrom (some p) bs
    | .malformed => none :: scanFrom none bs
  | some p, b :: bs =>
    if p.low ≤ b ∧ b ≤ p.high then
      let value := p.value * 64 + (b.toNat - 0x80)
      if p.later = 0 then some (Char.ofNat value) :: scanFrom none bs
      else scanFrom (some ⟨value, p.later - 1, 0x80, 0xBF⟩) bs
    else
      match lead b with
      | .whole c => none :: some c :: scanFrom none bs
      | .opens q => none :: scanFrom (some q) bs
      | .malformed => none :: none :: scanFrom none bs

/-- The characters of a byte list in order, `none` for each malformed run. -/
def scan (bytes : List UInt8) : List (Option Char) := scanFrom none bytes

/-- The text the bytes spell, when no run of them is malformed. -/
def decode (bytes : List UInt8) : Option String :=
  ((scan bytes).mapM id).map String.ofList

/-- The text the bytes spell, with one U+FFFD for each malformed run. -/
def decodeLossy (bytes : List UInt8) : String :=
  String.ofList ((scan bytes).map (·.getD '\uFFFD'))

def encode (text : String) : List UInt8 := text.toList.flatMap String.utf8EncodeChar

/-- The number of bytes a text takes. -/
def size : List Char → Nat
  | [] => 0
  | c :: cs => c.utf8Size + size cs

@[simp] theorem size_nil : size [] = 0 := rfl

@[simp] theorem size_cons (c : Char) (cs : List Char) : size (c :: cs) = c.utf8Size + size cs := rfl

@[simp] theorem size_append (xs ys : List Char) : size (xs ++ ys) = size xs + size ys := by
  induction xs with
  | nil => simp
  | cons c xs ih => simp [ih, Nat.add_assoc]

example : decode [0x61, 0xC3, 0xA9] = some "aé" := by decide
example : decode [0xED, 0xA0, 0x80] = none := by decide
example : decodeLossy [0xF0, 0x9F, 0x78, 0xC0, 0x80] = "\uFFFDx\uFFFD\uFFFD" := by decide

end Utf8

end BuildPlan
