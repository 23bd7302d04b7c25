import BuildPlan.Proofs.BuildFile.Symbols
import BuildPlan.Proofs.Template.Canonical
import BuildPlan.BuildFile

/-!
# Escaped text is unambiguous

A path list is read in one pass, character by character, without a look ahead. All that has to be kept in
mind from one character to the next is whether a `$` stands before it. A path may end in a `$` or in many,
right before the space that ends it, so the pass has to come out of every path with no `$` pending.

* `BuildFile.PathScan` — how far a path list has been read; `PathScan.step?` reads one more character, and
  cannot read a colon that has no `$` before it.
* `PathScan.run_path_append` — a written path adds exactly its characters, and leaves no `$` pending.
* `exists_run_pathList` — what a whole path list adds, whatever stands after it.
* `scan?_pathList_append` — the pass stops at the end of the list, if the text ends there or goes on with
  a colon.
* `Template.read_escaped` — a template that is only escaped text is that text.
* **`escaped_text_is_read_back`** — both together: no two path lists are written alike, and each of the two
  escapes is undone where templates are read.
-/

namespace BuildPlan

namespace BuildFile

/-! ### Reading in one pass -/

/-- How far a path list has been read. -/
structure PathScan where
  /-- The paths that a space has ended. -/
  ended : List Path := []
  /-- The characters of the path after them. -/
  current : List Char := []
  /-- A `$` stands before the next character. -/
  pending : Bool := false

namespace PathScan

/-- The paths that have been read, with the one that is being read. -/
def paths (s : PathScan) : List Path := s.ended ++ [⟨String.ofList s.current⟩]

/-- Read one more character. Behind a `$` it stands for itself; elsewhere a space ends a path, and a colon
cannot be read. -/
def step? (s : PathScan) (c : Char) : Option PathScan :=
  if s.pending then some { s with current := s.current ++ [c], pending := false }
  else if c = '$' then some { s with pending := true }
  else if c = ' ' then some { ended := s.paths }
  else if c = ':' then none
  else some { s with current := s.current ++ [c] }

/-- Read on, up to the first character that cannot be read. What comes back with the scan is the text from
that character on. -/
def run (s : PathScan) : List Char → PathScan × List Char
  | [] => (s, [])
  | c :: cs =>
    match s.step? c with
    | some next => next.run cs
    | none => (s, c :: cs)

end PathScan

/-- The paths at the front of a text, and the text from the first colon on that has no `$` before it.
There are none if the text ends in a `$` with nothing for it to stand before. -/
def scan? (cs : List Char) : Option (List Path × List Char) :=
  let (s, rest) := PathScan.run {} cs
  if s.pending then none else some (s.paths, rest)

example : scan? "a$$ b$ c $:: cc".toList = some ([⟨"a$"⟩, ⟨"b c"⟩, ⟨":"⟩], ": cc".toList) := by decide
example : scan? "a $$$".toList = none := by decide

namespace PathScan

variable (ended : List Path) (current : List Char)

/-- A character behind a `$` is a character of the path. -/
theorem run_escape (c : Char) (cs : List Char) :
    run ⟨ended, current, false⟩ ('$' :: c :: cs) = run ⟨ended, current ++ [c], false⟩ cs := rfl

/-- So is a character that is not special. -/
theorem run_plain {c : Char} (h : ¬ (c = '$' ∨ c = ' ' ∨ c = ':')) (cs : List Char) :
    run ⟨ended, current, false⟩ (c :: cs) = run ⟨ended, current ++ [c], false⟩ cs := by
  rw [not_or, not_or] at h
  simp [run, step?, h]

/-- A space ends the path. -/
theorem run_space (cs : List Char) :
    run ⟨ended, current, false⟩ (' ' :: cs) = run ⟨ended ++ [⟨String.ofList current⟩], [], false⟩ cs :=
  rfl

/-- A colon is where the reading stops. -/
theorem run_colon {s : PathScan} (h : s.pending = false) (cs : List Char) :
    s.run (':' :: cs) = (s, ':' :: cs) := by
  simp [run, step?, h]

/-- **A written path adds exactly its characters**, and no `$` is pending behind it. -/
theorem run_path_append (cs rest : List Char) :
    run ⟨ended, current, false⟩ (Escape.path cs ++ rest) =
      run ⟨ended, current ++ cs, false⟩ rest := by
  induction cs generalizing current with
  | nil => rw [Escape.path_nil, List.nil_append, List.append_nil]
  | cons c cs ih =>
    -- an escape is two steps, which bring back the state without a pending `$`
    have hadd : run ⟨ended, current, false⟩ (Escape.path (c :: cs) ++ rest) =
        run ⟨ended, current ++ [c], false⟩ (Escape.path cs ++ rest) := by
      by_cases hc : c = '$' ∨ c = ' ' ∨ c = ':'
      · rw [Escape.path_cons_of_special hc, List.cons_append, List.cons_append, run_escape]
      · rw [Escape.path_cons_of_plain hc, List.cons_append, run_plain ended current hc]
    rw [hadd, ih, List.append_assoc, List.singleton_append]

end PathScan

/-! ### Path lists -/

theorem pathList_singleton (p : Path) : pathList [p] = Escape.path p.text.toList := by
  simp [pathList, Escape.paths]

theorem pathList_cons_cons (p q : Path) (ps : List Path) :
    pathList (p :: q :: ps) = Escape.path p.text.toList ++ ' ' :: pathList (q :: ps) :=
  Escape.paths_cons_cons _ _ _

/-- **A path list adds exactly its paths**, whatever stands after it. -/
theorem exists_run_pathList {ps : List Path} (h : ps ≠ []) (ended : List Path) (rest : List Char) :
    ∃ s : PathScan, s.pending = false ∧ s.paths = ended ++ ps ∧
      PathScan.run ⟨ended, [], false⟩ (pathList ps ++ rest) = s.run rest := by
  -- the list is read from its front, so what has been read before it is general
  induction ps generalizing ended with
  | nil => exact absurd rfl h
  | cons p ps ih =>
    cases ps with
    | nil =>
      refine ⟨⟨ended, p.text.toList, false⟩, rfl, ?_, ?_⟩
      · rw [PathScan.paths, String.ofList_toList]
      · rw [pathList_singleton, PathScan.run_path_append, List.nil_append]
    | cons q ps =>
      obtain ⟨s, hpending, hpaths, hrun⟩ := ih (List.cons_ne_nil q ps) (ended ++ [p])
      refine ⟨s, hpending, ?_, ?_⟩
      · rw [hpaths, List.append_assoc, List.singleton_append]
      · rw [pathList_cons_cons, List.append_assoc, List.cons_append, PathScan.run_path_append,
          List.nil_append, PathScan.run_space, String.ofList_toList, hrun]

/-- **A path list is read back** where the text ends after it or goes on with a colon. -/
theorem scan?_pathList_append {ps : List Path} (h : ps ≠ []) {rest : List Char}
    (hrest : rest = [] ∨ ∃ after, rest = ':' :: after) :
    scan? (pathList ps ++ rest) = some (ps, rest) := by
  obtain ⟨s, hpending, hpaths, hrun⟩ := exists_run_pathList h [] rest
  have hstop : s.run rest = (s, rest) := by
    rcases hrest with rfl | ⟨after, rfl⟩
    · rfl
    · exact PathScan.run_colon hpending after
  rw [hstop] at hrun
  rw [scan?, hrun]
  simp [hpending, hpaths]

end BuildFile

/-! ### Templates that are text -/

namespace Template

/-- **Escaped text is read as one literal**, whichever of its characters were escaped. -/
theorem read_escaped {text : String} {written : List Char} (h : Escaped text.toList written)
    (hne : text ≠ "") (hline : '\n' ∉ text.toList) :
    read (String.ofList written) = .ok ⟨[.literal text]⟩ := by
  have hwritten : written.contains '\n' = false := by
    rw [Bool.eq_false_iff, ne_eq, List.contains_iff_mem]
    exact fun hmem => hline (h.mem_of_ne (by decide) hmem)
  have htokens : tokens written = .ok (tokensOf [.literal text]) := by
    have happend := h.tokens_append []
    rwa [List.append_nil, tokens] at happend
  have hcanonical : Canonical [.literal text] :=
    ⟨fun hnil => hne (String.toList_eq_nil_iff.1 hnil), hline, rfl, trivial⟩
  rw [read]
  simp only [String.toList_ofList, hwritten, htokens, segmentsOf_tokensOf hcanonical]
  rfl

end Template

namespace BuildFile

/-- **Escaped text is read back.** A path list with at least one path is read in one pass as exactly its
paths, whatever characters they are made of; no colon is met before the list ends, and if one ends it, the
pass stops right there. So no two lists are written alike. And text of one line that is not empty is read
as a template with nothing but that text in it, whether it was escaped as a path or as a value. -/
theorem escaped_text_is_read_back :
    (∀ ps : List Path, ps ≠ [] → scan? (pathList ps) = some (ps, [])) ∧
    (∀ ps : List Path, ps ≠ [] → ∀ after,
      scan? (pathList ps ++ ':' :: after) = some (ps, ':' :: after)) ∧
    (∀ ps qs : List Path, ps ≠ [] → qs ≠ [] → (pathList ps = pathList qs ↔ ps = qs)) ∧
    ∀ text : String, text ≠ "" → '\n' ∉ text.toList →
      Template.read (String.ofList (Escape.path text.toList)) = .ok ⟨[.literal text]⟩ ∧
      Template.read (String.ofList (Escape.value text.toList)) = .ok ⟨[.literal text]⟩ := by
  have hwhole : ∀ ps : List Path, ps ≠ [] → scan? (pathList ps) = some (ps, []) := by
    intro ps hps
    have hscan := scan?_pathList_append hps (.inl rfl)
    rwa [List.append_nil] at hscan
  refine ⟨hwhole, ?_, ?_, ?_⟩
  · intro ps hps after
    exact scan?_pathList_append hps (.inr ⟨after, rfl⟩)
  · intro ps qs hps hqs
    refine ⟨fun heq => ?_, congrArg pathList⟩
    have hscan := hwhole ps hps
    rw [heq, hwhole qs hqs] at hscan
    exact (Prod.mk.inj (Option.some.inj hscan)).1.symm
  · intro text hne hline
    exact ⟨Template.read_escaped (Template.escaped_path _) hne hline,
      Template.read_escaped (Template.escaped_value _) hne hline⟩

/-- Paths with signs where a reader could go wrong: a `$` before the space that ends the path, a space and a
colon at its front, no characters at all, and many `$`. -/
def awkward : List Path := [⟨"a$"⟩, ⟨" :"⟩, ⟨""⟩, ⟨"$$ "⟩]

theorem escaped_text_is_read_back_awkward :
    awkward ≠ [] ∧ pathList awkward = "a$$ $ $:  $$$$$ ".toList ∧
      scan? (pathList awkward) = some (awkward, []) ∧
      scan? (pathList awkward ++ ':' :: " cc x".toList) = some (awkward, ':' :: " cc x".toList) ∧
      pathList [⟨"a b"⟩] ≠ pathList [⟨"a"⟩, ⟨"b"⟩] ∧
      "c:/$in x" ≠ "" ∧ '\n' ∉ "c:/$in x".toList ∧
      Escape.path "c:/$in x".toList = "c$:/$$in$ x".toList ∧
      Template.read (String.ofList (Escape.path "c:/$in x".toList)) =
        .ok ⟨[.literal "c:/$in x"]⟩ ∧
      Escape.value "c:/$in x".toList = "c:/$$in x".toList ∧
      Template.read (String.ofList (Escape.value "c:/$in x".toList)) =
        .ok ⟨[.literal "c:/$in x"]⟩ := by
  have hawkward : awkward ≠ [] := by decide
  obtain ⟨hscan, hcolon, hunique, hread⟩ := escaped_text_is_read_back
  have hapart : pathList [⟨"a b"⟩] ≠ pathList [⟨"a"⟩, ⟨"b"⟩] := by
    intro heq
    have hsame := (hunique [⟨"a b"⟩] [⟨"a"⟩, ⟨"b"⟩] (by decide) (by decide)).1 heq
    exact absurd hsame (by decide)
  obtain ⟨hpath, hvalue⟩ := hread "c:/$in x" (by decide) (by decide)
  exact ⟨hawkward, by decide, hscan awkward hawkward, hcolon awkward hawkward _, hapart, by decide,
    by decide, by decide, hpath, by decide, hvalue⟩

end BuildFile

end BuildPlan
