import BuildPlan.Escape

/-!
# Undoing the escapes

Each of the two escapes has an inverse, and the inverse is defined on every text.

* `Escape.unvalue` — a value, with one `$` for every two; `unvalue_value` is the round trip.
* `Escape.symbols` — the text of a path list, with the characters that stand for themselves told apart
  from the spaces and colons that separate.
* `Escape.fields` — the parts of a line between colons, each as the list of its words.
* `Escape.fields_paths`, **`fields_paths_colon`** — the words of a path list, and of two path lists
  with a colon between them, are the words that were written, whatever characters are in them.
-/

namespace BuildPlan

namespace Escape

/-! ### Values -/

/-- Undo `value`: of two `$` in a row one is left. -/
def unvalue : List Char → List Char
  | '$' :: '$' :: cs => '$' :: unvalue cs
  | c :: cs => c :: unvalue cs
  | [] => []

theorem unvalue_cons_of_ne {c : Char} (h : c ≠ '$') (cs : List Char) :
    unvalue (c :: cs) = c :: unvalue cs := by
  rw [unvalue]
  rintro rest rfl -
  exact h rfl

/-- **The escape of a value can be undone.** -/
@[simp] theorem unvalue_value (cs : List Char) : unvalue (value cs) = cs := by
  induction cs with
  | nil => rfl
  | cons c cs ih =>
    by_cases hc : c = '$'
    · subst hc
      rw [value_dollar, unvalue, ih]
    · rw [value_cons_of_ne hc, unvalue_cons_of_ne hc, ih]

/-- Escaping a value brings in no new character and loses none. -/
theorem mem_value_iff {c : Char} {cs : List Char} : c ∈ value cs ↔ c ∈ cs := by
  induction cs with
  | nil => rfl
  | cons d cs ih =>
    by_cases hd : d = '$'
    · subst hd
      rw [value_dollar, List.mem_cons, List.mem_cons, List.mem_cons, ih, ← or_assoc, or_self]
    · rw [value_cons_of_ne hd, List.mem_cons, List.mem_cons, ih]

/-! ### Path lists -/

/-- A character of a path list, told apart by what it does there. -/
inductive Symbol where
  /-- A character of a path. -/
  | char (c : Char)
  /-- A space between two paths. -/
  | space
  /-- The colon after the outputs. -/
  | colon
deriving DecidableEq

/-- What a character does if no `$` stands before it. -/
def symbol (c : Char) : Symbol :=
  if c = ' ' then .space else if c = ':' then .colon else .char c

/-- Undo `path`: a character after a `$` stands for itself. -/
def symbols : List Char → List Symbol
  | '$' :: c :: cs => .char c :: symbols cs
  | c :: cs => symbol c :: symbols cs
  | [] => []

theorem symbols_cons_of_ne {c : Char} (h : c ≠ '$') (cs : List Char) :
    symbols (c :: cs) = symbol c :: symbols cs := by
  rw [symbols]
  rintro d rest rfl -
  exact h rfl

theorem paths_cons_cons (first second : List Char) (more : List (List Char)) :
    paths (first :: second :: more) = path first ++ ' ' :: paths (second :: more) := by
  simp [paths, List.intercalate_cons_cons]

/-- One path list after another. -/
theorem paths_append {texts : List (List Char)} (h : texts ≠ []) (more : List (List Char)) :
    paths (texts ++ more) = paths texts ++ if more.isEmpty then [] else ' ' :: paths more := by
  induction texts with
  | nil => exact absurd rfl h
  | cons first rest ih =>
    cases rest with
    | nil =>
      cases more with
      | nil => simp
      | cons second more => simp [paths]
    | cons second rest =>
      have ih := ih (List.cons_ne_nil second rest)
      rw [List.cons_append] at ih
      rw [List.cons_append, List.cons_append, paths_cons_cons, ih, paths_cons_cons,
        List.append_assoc, List.cons_append]

/-- The characters of an escaped path stand for themselves. -/
theorem symbols_path_append (cs rest : List Char) :
    symbols (path cs ++ rest) = cs.map .char ++ symbols rest := by
  induction cs with
  | nil => rfl
  | cons c cs ih =>
    rw [List.map_cons, List.cons_append]
    by_cases hc : c = '$' ∨ c = ' ' ∨ c = ':'
    · rw [path_cons_of_special hc, List.cons_append, List.cons_append, symbols, ih]
    · rw [path_cons_of_plain hc, List.cons_append]
      rw [not_or, not_or] at hc
      rw [symbols_cons_of_ne hc.1, ih, symbol, if_neg hc.2.1, if_neg hc.2.2]

/-- Words with a space between two of them. -/
def spaced (texts : List (List Char)) : List Symbol :=
  [Symbol.space].intercalate (texts.map fun text => text.map .char)

theorem spaced_cons_cons (first second : List Char) (more : List (List Char)) :
    spaced (first :: second :: more) =
      first.map .char ++ .space :: spaced (second :: more) := by
  simp [spaced, List.intercalate_cons_cons]

/-- The words of a path list stand for themselves and the spaces between them separate. -/
theorem symbols_paths_append (texts : List (List Char)) (rest : List Char) :
    symbols (paths texts ++ rest) = spaced texts ++ symbols rest := by
  induction texts with
  | nil => rfl
  | cons first more ih =>
    cases more with
    | nil => simpa [paths, spaced] using symbols_path_append first rest
    | cons second more =>
      have hspace : symbols (' ' :: (paths (second :: more) ++ rest)) =
          .space :: symbols (paths (second :: more) ++ rest) :=
        symbols_cons_of_ne (by decide) _
      rw [paths_cons_cons, List.append_assoc, List.cons_append, symbols_path_append, hspace, ih,
        spaced_cons_cons, List.append_assoc, List.cons_append]

theorem symbols_paths (texts : List (List Char)) : symbols (paths texts) = spaced texts := by
  simpa [symbols] using symbols_paths_append texts []

/-! ### Lines as words -/

/-- The character of a symbol that stands for itself. -/
def Symbol.char? : Symbol → Option Char
  | .char c => some c
  | .space => none
  | .colon => none

/-- The words between spaces. -/
def words (part : List Symbol) : List String :=
  (part.splitOn .space).map fun word => String.ofList (word.filterMap Symbol.char?)

/-- The parts of a line between colons, each as the list of its words. -/
def fields (line : List Char) : List (List String) :=
  ((symbols line).splitOn .colon).map words

/-- No colon separates words. -/
theorem colon_notMem_spaced (texts : List (List Char)) : Symbol.colon ∉ spaced texts := by
  induction texts with
  | nil => simp [spaced]
  | cons first more ih =>
    cases more with
    | nil => simp [spaced]
    | cons second more =>
      rw [spaced_cons_cons]
      simp [ih]

/-- Words that are written with a space between them are told apart again. -/
theorem words_spaced {ws : List String} (h : ws ≠ []) :
    words (spaced (ws.map String.toList)) = ws := by
  have hsplit : (spaced (ws.map String.toList)).splitOn .space =
      (ws.map String.toList).map fun text => text.map .char := by
    refine List.splitOn_intercalate _ ?_ (by simpa using h)
    intro word hword
    obtain ⟨text, -, rfl⟩ := List.mem_map.1 hword
    simp
  have hword : ∀ w : String,
      String.ofList ((w.toList.map Symbol.char).filterMap Symbol.char?) = w := by
    intro w
    have hsome : (Symbol.char? ∘ Symbol.char) = some := rfl
    rw [List.filterMap_map, hsome, List.filterMap_some, String.ofList_toList]
  rw [words, hsplit, List.map_map, List.map_map]
  exact (List.map_congr_left fun w _ => hword w).trans (List.map_id ws)

/-- **The words of a path list** are the words that were written. -/
theorem fields_paths {ws : List String} (h : ws ≠ []) :
    fields (paths (ws.map String.toList)) = [ws] := by
  rw [fields, symbols_paths, List.splitOn_eq_singleton (colon_notMem_spaced _), List.map_singleton,
    words_spaced h]

/-- **The words of two path lists** with a colon between them are the words that were written. -/
theorem fields_paths_colon {ws us : List String} (h : ws ≠ []) (h' : us ≠ []) :
    fields (paths (ws.map String.toList) ++ ':' :: paths (us.map String.toList)) = [ws, us] := by
  have hcolon : symbols (':' :: paths (us.map String.toList)) =
      .colon :: symbols (paths (us.map String.toList)) := symbols_cons_of_ne (by decide) _
  rw [fields, symbols_paths_append, hcolon, symbols_paths,
    List.splitOn_append_cons_self_of_not_mem (colon_notMem_spaced _),
    List.splitOn_eq_singleton (colon_notMem_spaced _), List.map_cons, List.map_singleton,
    words_spaced h, words_spaced h']

theorem path_eq_self {cs : List Char} (h : ∀ c ∈ cs, c ≠ '$' ∧ c ≠ ' ' ∧ c ≠ ':') :
    path cs = cs := by
  induction cs with
  | nil => rfl
  | cons c cs ih =>
    have hc := h c List.mem_cons_self
    rw [path_cons_of_plain (by simp [hc]), ih fun d hd => h d (List.mem_cons_of_mem c hd)]

/-- Escaping a path brings in no new character but `$`, and loses none. -/
theorem mem_path_iff {c : Char} (h : c ≠ '$') {cs : List Char} : c ∈ path cs ↔ c ∈ cs := by
  induction cs with
  | nil => rfl
  | cons d cs ih =>
    by_cases hd : d = '$' ∨ d = ' ' ∨ d = ':'
    · rw [path_cons_of_special hd, List.mem_cons, List.mem_cons, List.mem_cons, or_iff_right h, ih]
    · rw [path_cons_of_plain hd, List.mem_cons, List.mem_cons, ih]

/-- The characters of a path list are those of the paths, apart from what the list puts between and
before them. -/
theorem mem_paths_iff {c : Char} (hdollar : c ≠ '$') (hspace : c ≠ ' ') {texts : List (List Char)} :
    c ∈ paths texts ↔ ∃ text ∈ texts, c ∈ text := by
  induction texts with
  | nil => simp [paths]
  | cons first more ih =>
    have hfirst : c ∈ path first ↔ c ∈ first := mem_path_iff hdollar
    simp only [List.mem_cons, exists_eq_or_imp]
    rw [← hfirst, ← ih]
    cases more with
    | nil => simp [paths]
    | cons second more =>
      rw [paths_cons_cons, List.mem_append, List.mem_cons, or_iff_right hspace]

example : fields "build a$ b c$:d: regen | x".toList =
    [["build", "a b", "c:d"], ["", "regen", "|", "x"]] := by
  decide

end Escape

end BuildPlan
