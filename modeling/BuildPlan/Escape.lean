/-!
# Escapes of the build-file format

In a build file `$` starts an escape or a variable reference. Two contexts need two escapes.

* `Escape.value` is for variable values and for literal command text: only `$` is special there.
* `Escape.path` is for the path lists of `build` and `default` lines, where a space separates two
  paths and a colon ends the outputs: `$`, space and colon are special.
* `Escape.paths` writes a path list.

Both escapes put a `$` before each special character and leave all else alone. Line breaks have no
escape in either context.
-/

namespace BuildPlan

namespace Escape

/-- Double every `$`. -/
def value (cs : List Char) : List Char :=
  cs.flatMap fun c => if c = '$' then ['$', c] else [c]

/-- Put a `$` before every `$`, space and colon. -/
def path (cs : List Char) : List Char :=
  cs.flatMap fun c => if c = '$' ∨ c = ' ' ∨ c = ':' then ['$', c] else [c]

/-- Path texts, each escaped, with one space between two of them. -/
def paths (texts : List (List Char)) : List Char := [' '].intercalate (texts.map path)

@[simp] theorem path_nil : path [] = [] := rfl

/-- A character that is not special is left alone. -/
theorem value_cons_of_ne {c : Char} (h : c ≠ '$') (cs : List Char) :
    value (c :: cs) = c :: value cs := by
  simp [value, h]

/-- A `$` is written twice. -/
theorem value_dollar (cs : List Char) : value ('$' :: cs) = '$' :: '$' :: value cs := by
  simp [value]

/-- A special character is written behind a `$`. -/
theorem path_cons_of_special {c : Char} (h : c = '$' ∨ c = ' ' ∨ c = ':') (cs : List Char) :
    path (c :: cs) = '$' :: c :: path cs := by
  simp [path, h]

/-- Any other character is left alone. -/
theorem path_cons_of_plain {c : Char} (h : ¬ (c = '$' ∨ c = ' ' ∨ c = ':')) (cs : List Char) :
    path (c :: cs) = c :: path cs := by
  simp [path, h]

example : value "a$b $$".toList = "a$$b $$$$".toList := by decide
example : path "c:/my file$".toList = "c$:/my$ file$$".toList := by decide

end Escape

end BuildPlan
