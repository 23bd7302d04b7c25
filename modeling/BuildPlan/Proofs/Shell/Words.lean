import BuildPlan.Shell.Quote

/-!
# Quoted words are read back by a shell

A shell cuts a command line into words. Spaces and tabs separate words. Single quotes take all up to
the next single quote for what it is; between double quotes a backslash counts only before `$`, a back
quote, `"`, a backslash or a line feed; outside quotes it counts before every character. A backslash
and a line feed together stand for nothing.

* `Shell.Scan` — how far a command line has been read; `Scan.step` reads one more character.
* `Shell.words?` — the words of a command line. Reading stops with nothing where a shell would go
  beyond words: at a character that may mean more than itself outside quotes (`specials`), at a `$` or a
  back quote between double quotes, and at an end of text inside quotes.
* `Chunk.Sound` — a chunk holds only what its style can hold. `sound_chunksFrom` is the invariant of
  cutting a word into chunks: the styles still in the choice can hold all that has been taken.
* `run_spell` — reading a sound chunk adds its content to the word.
* `subset_quoted`, `subset_commandLine` — no character gets lost in quoting.
* `mem_of_mem_quoted`, `exists_of_mem_commandLine` — only quotes, backslashes and spaces are added.
* **`words?_commandLine`** — quoted words with a space between two of them are read as those words.

So no quoted word depends on what a shell does with expansions, patterns or operators.
-/

namespace BuildPlan

namespace Shell

/-! ### Reading a command line -/

/-- Where the next character of a command line stands. -/
inductive Mode where
  /-- Between two words. -/
  | between
  /-- In a word, outside quotes. -/
  | bare
  /-- After a backslash outside quotes, with a word started before it or not. -/
  | escaped (started : Bool)
  /-- Between single quotes. -/
  | single
  /-- Between double quotes. -/
  | double
  /-- After a backslash between double quotes. -/
  | doubleEscaped
deriving DecidableEq

/-- How far a command line has been read. -/
structure Scan where
  /-- Where the next character stands. -/
  mode : Mode := .between
  /-- The word being read. -/
  word : List Char := []
  /-- The words before it. -/
  words : List (List Char) := []

/-- The character separates words outside quotes. -/
def isBlank (c : Char) : Bool := c == ' ' || c == '\t'

/-- The characters that may mean more than themselves outside quotes: they end a command, expand,
start a pattern, a comment or an assignment, or take part in one. -/
def specials : List Char :=
  ['\n', '|', '&', ';', '<', '>', '(', ')', '$', '\x60', '*', '?', '[', '#', '~', '=', '%', '!',
    '\x7b', '\x7d', '^', ',']

/-- The characters that keep their backslash's effect between double quotes. -/
def doubleSpecials : List Char := ['$', '\x60', '"', '\\']

namespace Scan

/-- Characters added to the word. -/
def add (s : Scan) (mode : Mode) (cs : List Char) : Scan :=
  { s with mode := mode, word := s.word ++ cs }

/-- Read a character of a word outside quotes. -/
def openWith (s : Scan) (c : Char) : Option Scan :=
  if c = '\'' then some { s with mode := .single }
  else if c = '"' then some { s with mode := .double }
  else if c = '\\' then some { s with mode := .escaped (s.mode == .bare) }
  else if specials.contains c then none
  else some (s.add .bare [c])

/-- Read one more character. -/
def step (s : Scan) (c : Char) : Option Scan :=
  match s.mode with
  | .between => if isBlank c then some s else s.openWith c
  | .bare => if isBlank c then some { words := s.words ++ [s.word] } else s.openWith c
  | .escaped started =>
    if c = '\n' then some { s with mode := if started then .bare else .between }
    else some (s.add .bare [c])
  | .single => if c = '\'' then some { s with mode := .bare } else some (s.add .single [c])
  | .double =>
    if c = '"' then some { s with mode := .bare }
    else if c = '\\' then some { s with mode := .doubleEscaped }
    else if c = '$' ∨ c = '\x60' then none
    else some (s.add .double [c])
  | .doubleEscaped =>
    if c = '\n' then some { s with mode := .double }
    else if doubleSpecials.contains c then some (s.add .double [c])
    else some (s.add .double ['\\', c])

/-- Read characters one after the other. -/
def run (s : Scan) (cs : List Char) : Option Scan := cs.foldlM step s

/-- The words, if the text may end here. -/
def finish (s : Scan) : Option (List (List Char)) :=
  match s.mode with
  | .between => some s.words
  | .bare => some (s.words ++ [s.word])
  | _ => none

end Scan

/-- The words of a command line. -/
def words? (text : String) : Option (List String) :=
  ((Scan.run {} text.toList).bind Scan.finish).map (·.map String.ofList)

example : words? " a'b c'\"d\\\"\\e\"\\ f\t''" = some ["ab cd\"\\e f", ""] := by decide
example : words? "a $b" = none ∧ words? "a 'b" = none := by decide

namespace Scan

@[simp] theorem run_nil (s : Scan) : s.run [] = some s := rfl

theorem run_cons (s : Scan) (c : Char) (cs : List Char) :
    s.run (c :: cs) = (s.step c).bind fun t => t.run cs := by
  rw [run, List.foldlM_cons]
  rfl

theorem run_append (s : Scan) (xs ys : List Char) :
    s.run (xs ++ ys) = (s.run xs).bind fun t => t.run ys := by
  rw [run, List.foldlM_append]
  rfl

@[simp] theorem add_nil (s : Scan) (mode : Mode) : s.add mode [] = { s with mode := mode } := by
  rw [add, List.append_nil]

@[simp] theorem add_add (s : Scan) (mode mode' : Mode) (xs ys : List Char) :
    (s.add mode xs).add mode' ys = s.add mode' (xs ++ ys) := by
  simp [add]

/-- A word may start or go on here, outside quotes. -/
def Ready (s : Scan) : Prop := s.mode = .between ∨ s.mode = .bare

theorem ready_add_bare (s : Scan) (cs : List Char) : (s.add .bare cs).Ready := Or.inr rfl

/-- Outside quotes, what is no blank belongs to a word. -/
theorem step_of_ready {s : Scan} (h : s.Ready) {c : Char} (hc : isBlank c = false) :
    s.step c = s.openWith c := by
  rcases h with hmode | hmode
  · rw [step, hmode]
    simp [hc]
  · rw [step, hmode]
    simp [hc]

/-! ### Reading a chunk -/

/-- A character that can stand bare is no blank, no quote and no special character. -/
theorem step_bare {s : Scan} (h : s.Ready) {c : Char} (hc : Style.bare.admits c = true) :
    s.step c = some (s.add .bare [c]) := by
  have hne : ∀ d, Style.bare.admits d = false → c ≠ d := by
    rintro d hd rfl
    rw [hd] at hc
    cases hc
  have hblank : isBlank c = false := by
    simp [isBlank, hne ' ' (by decide), hne '\t' (by decide)]
  have hspecial : specials.contains c = false := by
    rw [List.contains_eq_mem, decide_eq_false_iff_not]
    intro hmem
    have hrefused : specials.all (fun d => !Style.bare.admits d) = true := by decide
    have hc' := List.all_eq_true.1 hrefused c hmem
    rw [hc] at hc'
    cases hc'
  rw [step_of_ready h hblank, openWith, if_neg (hne '\'' (by decide)), if_neg (hne '"' (by decide)),
    if_neg (hne '\\' (by decide)), hspecial]
  rfl

theorem run_bare {s : Scan} (h : s.Ready) {cs : List Char}
    (hcs : ∀ c ∈ cs, Style.bare.admits c = true) (hne : cs ≠ []) :
    s.run cs = some (s.add .bare cs) := by
  induction cs generalizing s with
  | nil => exact absurd rfl hne
  | cons c cs ih =>
    rw [run_cons, step_bare h (hcs c List.mem_cons_self), Option.bind_some]
    cases cs with
    | nil => rw [run_nil]
    | cons d cs =>
      rw [ih (s.ready_add_bare [c]) (fun e he => hcs e (List.mem_cons_of_mem c he)) (by simp),
        add_add]
      rfl

theorem run_single (s : Scan) {cs : List Char} (hcs : '\'' ∉ cs) :
    (s.add .single []).run cs = some (s.add .single cs) := by
  induction cs generalizing s with
  | nil => rfl
  | cons c cs ih =>
    rw [List.mem_cons, not_or] at hcs
    have hstep : (s.add .single []).step c = some ((s.add .single [c]).add .single []) := by
      rw [step]
      simp [add, Ne.symm hcs.1]
    rw [run_cons, hstep, Option.bind_some, ih _ hcs.2, add_add]
    rfl

/-- Reading escaped text between double quotes adds the text to the word. -/
theorem run_double (s : Scan) {cs : List Char} (hcs : ∀ c ∈ cs, c ≠ '$' ∧ c ≠ '\x60') :
    (s.add .double []).run (cs.flatMap doubleEscape) = some (s.add .double cs) := by
  induction cs generalizing s with
  | nil => rfl
  | cons c cs ih =>
    have hrun : (s.add .double []).run (doubleEscape c) = some ((s.add .double [c]).add .double []) := by
      obtain ⟨hdollar, hback⟩ := hcs c List.mem_cons_self
      rw [doubleEscape]
      split
      · rename_i hspecial
        rcases hspecial with rfl | rfl
        · simp [run_cons, step, add, doubleSpecials]
        · simp [run_cons, step, add, doubleSpecials]
      · rename_i hplain
        rw [not_or] at hplain
        simp [run_cons, step, add, hplain, hdollar, hback]
    rw [List.flatMap_cons, run_append, hrun, Option.bind_some,
      ih _ fun d hd => hcs d (List.mem_cons_of_mem c hd), add_add]
    rfl

end Scan

/-! ### Chunks hold what their style can hold -/

/-- The style can hold the characters. Between quotes a `^` is as good as any other character, so it
does not matter here that a chunk has it in front only. -/
def Style.Holds : Style → List Char → Prop
  | .bare, cs => ∀ c ∈ cs, Style.bare.admits c = true
  | .single, cs => '\'' ∉ cs
  | .double, cs => ∀ c ∈ cs, c ≠ '$' ∧ c ≠ '\x60'

/-- The chunk holds something, and only what its style can hold. -/
def Chunk.Sound (k : Chunk) : Prop := k.content ≠ [] ∧ k.style.Holds k.content

/-- The choice contains the style. -/
def Choice.has (s : Choice) : Style → Bool
  | .bare => s.bare
  | .single => s.single
  | .double => s.double

/-- The invariant of cutting a word into chunks: something has been taken, some style is left, and
every style that is left can hold all that has been taken. -/
structure Choice.Fits (s : Choice) (taken : List Char) : Prop where
  /-- Something has been taken. -/
  taken_ne_nil : taken ≠ []
  /-- Some style is left. -/
  not_empty : s.isEmpty = false
  /-- Every style that is left can hold what has been taken. -/
  holds : ∀ style, s.has style = true → style.Holds taken

theorem Style.holds_cons {style : Style} {c : Char} (hc : style.admits c = true) {cs : List Char}
    (h : style.Holds cs) : style.Holds (c :: cs) := by
  cases style with
  | bare => exact List.forall_mem_cons.2 ⟨hc, h⟩
  | single =>
    refine List.not_mem_cons_of_ne_of_not_mem ?_ h
    rintro rfl
    exact absurd hc (by decide)
  | double =>
    refine List.forall_mem_cons.2 ⟨⟨?_, ?_⟩, h⟩
    · rintro rfl
      exact absurd hc (by decide)
    · rintro rfl
      exact absurd hc (by decide)

theorem Style.holds_reverse {style : Style} {cs : List Char} (h : style.Holds cs) :
    style.Holds cs.reverse := by
  cases style with
  | bare => exact fun c hc => h c (List.mem_reverse.1 hc)
  | single => exact fun hc => h (List.mem_reverse.1 hc)
  | double => exact fun c hc => h c (List.mem_reverse.1 hc)

theorem Style.holds_nil (style : Style) : style.Holds [] := by
  cases style <;> simp [Holds]

namespace Choice

theorem has_narrow {s : Choice} {c : Char} {style : Style} :
    (s.narrow c).has style = (s.has style && style.admits c) := by
  cases style <;> rfl

/-- The preferred style is one of those left. -/
theorem has_preferred {s : Choice} (h : s.isEmpty = false) : s.has s.preferred = true := by
  rcases s with ⟨_ | _, _ | _, _ | _⟩ <;> first | rfl | cases h

/-- A chunk can be started with any character. -/
theorem fits_starting (c : Char) : (starting c).Fits [c] := by
  rw [starting]
  split
  · rename_i hcaret
    subst hcaret
    refine ⟨by simp, rfl, ?_⟩
    intro style hstyle
    cases style with
    | bare => cases hstyle
    | single => exact fun hmem => absurd (List.mem_singleton.1 hmem) (by decide)
    | double => cases hstyle
  · rename_i hcaret
    refine ⟨by simp, ?_, ?_⟩
    · -- single quotes hold all but a quote and a backslash here, and double quotes hold those two
      by_cases hsingle : c = '\'' ∨ c = '\\'
      · rcases hsingle with rfl | rfl
        · decide
        · decide
      · rw [not_or] at hsingle
        simp [isEmpty, narrow, Style.admits, hsingle, hcaret]
    · intro style hstyle
      rw [has_narrow, Bool.and_eq_true] at hstyle
      exact Style.holds_cons hstyle.2 style.holds_nil

/-- One more character keeps the invariant, if a style is left for it. -/
theorem Fits.narrow {s : Choice} {taken : List Char} (h : s.Fits taken) {c : Char}
    (hne : (s.narrow c).isEmpty = false) : (s.narrow c).Fits (c :: taken) := by
  refine ⟨List.cons_ne_nil c taken, hne, ?_⟩
  intro style hstyle
  rw [has_narrow, Bool.and_eq_true] at hstyle
  exact Style.holds_cons hstyle.2 (h.holds style hstyle.1)

/-- A chunk may end wherever the invariant holds. -/
theorem Fits.sound {s : Choice} {taken : List Char} (h : s.Fits taken) :
    Chunk.Sound ⟨s.preferred, taken.reverse⟩ :=
  ⟨by simpa using h.taken_ne_nil, Style.holds_reverse (h.holds _ (has_preferred h.not_empty))⟩

end Choice

/-- **Chunks are sound**, as long as the first is. -/
theorem sound_chunksFrom {choice : Choice} {taken : List Char} (h : choice.Fits taken)
    (cs : List Char) : ∀ k ∈ chunksFrom choice taken cs, k.Sound := by
  induction cs generalizing choice taken with
  | nil =>
    intro k hk
    rw [chunksFrom, List.mem_singleton] at hk
    exact hk ▸ h.sound
  | cons c cs ih =>
    intro k hk
    rw [chunksFrom] at hk
    split at hk
    · rcases List.mem_cons.1 hk with rfl | hk
      · exact h.sound
      · exact ih (Choice.fits_starting c) k hk
    · rename_i hne
      exact ih (h.narrow (Bool.eq_false_iff.2 hne)) k hk

theorem sound_chunks (cs : List Char) : ∀ k ∈ chunks cs, k.Sound := by
  cases cs with
  | nil => simp [chunks]
  | cons c cs => exact sound_chunksFrom (Choice.fits_starting c) cs

/-! ### Reading words -/

namespace Scan

theorem step_single_quote {s : Scan} (h : s.Ready) : s.step '\'' = some (s.add .single []) := by
  rw [step_of_ready h (by decide), add_nil]
  rfl

theorem step_double_quote {s : Scan} (h : s.Ready) : s.step '"' = some (s.add .double []) := by
  rw [step_of_ready h (by decide), add_nil]
  rfl

/-- **Reading a sound chunk** adds its content to the word. -/
theorem run_spell {s : Scan} (h : s.Ready) {k : Chunk} (hk : k.Sound) :
    s.run k.spell = some (s.add .bare k.content) := by
  obtain ⟨style, content⟩ := k
  obtain ⟨hne, hholds⟩ := hk
  cases style with
  | bare => exact run_bare h hholds hne
  | single =>
    show s.run ('\'' :: (content ++ ['\''])) = _
    rw [run_cons, step_single_quote h, Option.bind_some, run_append, run_single s hholds]
    rfl
  | double =>
    show s.run ('"' :: (content.flatMap doubleEscape ++ ['"'])) = _
    rw [run_cons, step_double_quote h, Option.bind_some, run_append, run_double s hholds]
    rfl

theorem run_chunks {s : Scan} (h : s.Ready) {ks : List Chunk} (hks : ∀ k ∈ ks, k.Sound)
    (hne : ks ≠ []) :
    s.run (ks.flatMap Chunk.spell) = some (s.add .bare (ks.flatMap Chunk.content)) := by
  induction ks generalizing s with
  | nil => exact absurd rfl hne
  | cons k ks ih =>
    rw [List.flatMap_cons, run_append, run_spell h (hks k List.mem_cons_self), Option.bind_some]
    cases ks with
    | nil => simp
    | cons l ks =>
      rw [ih (s.ready_add_bare k.content) (fun m hm => hks m (List.mem_cons_of_mem k hm)) (by simp),
        add_add]
      rfl

theorem run_quoted {s : Scan} (h : s.Ready) (cs : List Char) :
    s.run (quoted cs) = some (s.add .bare cs) := by
  rw [quoted]
  split
  · rename_i hempty
    rw [List.isEmpty_iff.1 hempty]
    rw [run_cons, step_single_quote h, Option.bind_some]
    rfl
  · rename_i hempty
    have hne : chunks cs ≠ [] := by
      intro hnil
      have hcontent := content_chunks cs
      rw [hnil] at hcontent
      simp [← hcontent] at hempty
    rw [run_chunks h (sound_chunks cs) hne, content_chunks]

/-- A space after a quoted word ends it. -/
theorem run_quoted_space (done : List (List Char)) (cs rest : List Char) :
    run { words := done } (quoted cs ++ ' ' :: rest) = run { words := done ++ [cs] } rest := by
  rw [run_append, run_quoted (Or.inl rfl), Option.bind_some, run_cons]
  rfl

theorem finish_run_quoted (done words : List (List Char)) :
    (run { words := done } ([' '].intercalate (words.map quoted))).bind finish =
      some (done ++ words) := by
  induction words generalizing done with
  | nil => simp [finish]
  | cons first more ih =>
    cases more with
    | nil =>
      rw [List.map_singleton, List.intercalate_singleton, run_quoted (Or.inl rfl), Option.bind_some]
      rfl
    | cons second more =>
      rw [List.map_cons, List.map_cons, List.intercalate_cons_cons, ← List.map_cons,
        List.append_assoc, List.singleton_append, run_quoted_space, ih]
      simp

end Scan

/-- The command line of words. -/
def commandLine (words : List String) : List Char :=
  [' '].intercalate (words.map fun word => quoted word.toList)

/-- Writing a chunk keeps its characters. -/
theorem subset_spell (k : Chunk) : k.content ⊆ k.spell := by
  intro c hc
  rw [Chunk.spell]
  split
  · exact hc
  · exact List.mem_append_left _ (List.mem_cons_of_mem _ hc)
  · have hescape : c ∈ doubleEscape c := by
      rw [doubleEscape]
      split
      · exact List.mem_cons_of_mem _ List.mem_cons_self
      · exact List.mem_cons_self
    exact List.mem_append_left _ (List.mem_cons_of_mem _ (List.mem_flatMap.2 ⟨c, hc, hescape⟩))

theorem subset_quoted (cs : List Char) : cs ⊆ quoted cs := by
  intro c hc
  rw [quoted, if_neg (by simpa using List.ne_nil_of_mem hc)]
  rw [← content_chunks cs] at hc
  obtain ⟨k, hk, hc⟩ := List.mem_flatMap.1 hc
  exact List.mem_flatMap.2 ⟨k, hk, subset_spell k hc⟩

theorem subset_commandLine {words : List String} {word : String} (h : word ∈ words) :
    word.toList ⊆ commandLine words := by
  rw [commandLine]
  induction words with
  | nil => cases h
  | cons first more ih =>
    cases more with
    | nil =>
      rw [List.mem_singleton.1 h]
      simpa using subset_quoted first.toList
    | cons second more =>
      rw [List.map_cons, List.map_cons, List.intercalate_cons_cons]
      rcases List.mem_cons.1 h with rfl | h
      · exact fun c hc => List.mem_append_left _ (List.mem_append_left _ (subset_quoted _ hc))
      · exact fun c hc => List.mem_append_right _ (ih h hc)

/-- Writing a chunk adds only quotes and backslashes. -/
theorem mem_of_mem_spell {k : Chunk} {c : Char} (h : c ∈ k.spell) (hc : c ∉ ['\'', '"', '\\']) :
    c ∈ k.content := by
  simp only [List.mem_cons, List.not_mem_nil, or_false, not_or] at hc
  obtain ⟨hsingle, hdouble, hback⟩ := hc
  rw [Chunk.spell] at h
  split at h
  · exact h
  · simpa [hsingle] using h
  · have hescaped : c ∈ k.content.flatMap doubleEscape := by simpa [hdouble] using h
    obtain ⟨other, hother, hmem⟩ := List.mem_flatMap.1 hescaped
    have hsame : c = other := by
      rw [doubleEscape] at hmem
      split at hmem <;> simpa [hback] using hmem
    exact hsame ▸ hother

theorem mem_of_mem_quoted {cs : List Char} {c : Char} (h : c ∈ quoted cs)
    (hc : c ∉ ['\'', '"', '\\']) : c ∈ cs := by
  rw [quoted] at h
  split at h
  · simp only [List.mem_cons, List.not_mem_nil, or_false, or_self] at h
    exact absurd (h ▸ List.mem_cons_self) hc
  · rw [← content_chunks cs]
    obtain ⟨k, hk, hmem⟩ := List.mem_flatMap.1 h
    exact List.mem_flatMap.2 ⟨k, hk, mem_of_mem_spell hmem hc⟩

/-- All other characters of a command line but spaces come from a word. -/
theorem exists_of_mem_commandLine {words : List String} {c : Char} (h : c ∈ commandLine words)
    (hc : c ∉ [' ', '\'', '"', '\\']) : ∃ word ∈ words, c ∈ word.toList := by
  obtain ⟨hspace, hquotes⟩ := not_or.1 (mt List.mem_cons.2 hc)
  rw [commandLine] at h
  induction words with
  | nil => simp at h
  | cons first more ih =>
    cases more with
    | nil =>
      rw [List.map_singleton, List.intercalate_singleton] at h
      exact ⟨first, List.mem_cons_self, mem_of_mem_quoted h hquotes⟩
    | cons second more =>
      rw [List.map_cons, List.map_cons, List.intercalate_cons_cons, List.mem_append,
        List.mem_append, List.mem_singleton, or_iff_left hspace] at h
      rcases h with h | h
      · exact ⟨first, List.mem_cons_self, mem_of_mem_quoted h hquotes⟩
      · obtain ⟨word, hword, hmem⟩ := ih h
        exact ⟨word, List.mem_cons_of_mem first hword, hmem⟩

/-- A command line is read as its words, after whatever words came before. -/
theorem read_commandLine (done words : List String) :
    ((Scan.run { words := done.map String.toList } (commandLine words)).bind Scan.finish).map
      (·.map String.ofList) = some (done ++ words) := by
  have hwords : (words.map String.toList).map quoted = words.map fun word => quoted word.toList :=
    List.map_map
  have hrun := Scan.finish_run_quoted (done.map String.toList) (words.map String.toList)
  rw [hwords] at hrun
  rw [commandLine, hrun, Option.map_some, ← List.map_append, List.map_map]
  simp [Function.comp_def]

/-- **Quoted words are read back**, whatever characters they are made of. -/
theorem words?_commandLine (words : List String) :
    words? (String.ofList (commandLine words)) = some words := by
  rw [words?, String.toList_ofList]
  exact read_commandLine [] words

/-- A quoted word and a space before a command line are read as one word more. The command line may
be empty. -/
theorem words?_quoted_commandLine (word : String) (words : List String) :
    words? (String.ofList (quoted word.toList ++ ' ' :: commandLine words)) =
      some (word :: words) := by
  rw [words?, String.toList_ofList, Scan.run_quoted_space]
  exact read_commandLine [word] words

end Shell

end BuildPlan
