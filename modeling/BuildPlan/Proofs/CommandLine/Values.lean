import BuildPlan.CommandLine
import BuildPlan.Proofs.Outcome
import BuildPlan.Proofs.Text.Encoding

/-!
# Where the values of a command line come from

A value comes from a word after its option, from the part of a word after an equals sign, or from the
letters of a cluster after an `o`. In each case its characters stand in that very word, read as text.

* `DrawnFrom` — the characters of a text stand in some words.
* `Reads` — where a reading stands in the bytes of a word; `reads_reading` says that each does.
* `mem_text_of_long`, `letters_of_cluster` — what is attached to an option stands in its word.
* `Progress.Drawn` — the invariant of going through the words; each kind of word keeps it.
* **`value_drawn`** — a value of an accepted command line is drawn from its words, or it is a default.
-/

namespace BuildPlan

/-- Every character of the text stands in one of the words. -/
def DrawnFrom (words : List Word) (text : String) : Prop :=
  ∀ c ∈ text.toList, ∃ w ∈ words, c ∈ w.text.toList

namespace Word

/-- A text is read back from the word that it is written as. -/
@[simp] theorem text_ofText (text : String) : (ofText text).text = text := Utf8.decodeLossy_encode text

@[simp] theorem intact_ofText (text : String) : (ofText text).intact = true := by
  rw [intact, ofText, Utf8.decode_encode, Option.isSome_some]

end Word

namespace CommandLine

/-! ### Single words -/

/-- Where in the bytes of a word a reading stands, as far as values come from it. -/
inductive Reads (bytes : List UInt8) : Reading → Prop
  | other : Reads bytes .other
  | separator : Reads bytes .separator
  | unreadable {name : String} : Reads bytes (.unreadable name)
  | bare {o : AnyOption} : Reads bytes (.long o none)
  | attached {o : AnyOption} {front value : List UInt8} (split : bytes = front ++ equals :: value) :
      Reads bytes (.long o (some ⟨value⟩))
  | cluster {rest : List UInt8} (split : bytes = dash :: rest)
      (letters : ∀ b ∈ rest, Char.ofNat b.toNat ∈ shortLetters) :
      Reads bytes (.cluster (rest.map fun b => Char.ofNat b.toNat))

theorem reads_shortReading (bytes : List UInt8) : Reads (dash :: bytes) (shortReading bytes) := by
  unfold shortReading
  dsimp only
  split
  · exact .other
  split
  · rename_i hall
    exact .cluster rfl (by simpa using hall)
  · exact .other

theorem reads_longReading (before bytes : List UInt8) :
    Reads (before ++ bytes) (longReading bytes) := by
  unfold longReading
  dsimp only
  split
  · exact .unreadable
  split
  · exact .other
  split
  · exact .bare
  · rename_i x value hdrop
    -- what is dropped first is the equals sign
    have hx := List.head?_dropWhile_not (fun b : UInt8 => decide (b ≠ equals)) bytes
    rw [hdrop] at hx
    have hequals : x = equals := by simpa using hx
    rw [hequals] at hdrop
    have hsplit : before ++ bytes = before ++ bytes.takeWhile (· ≠ equals) ++ equals :: value := by
      rw [List.append_assoc, ← hdrop, List.takeWhile_append_dropWhile]
    exact .attached hsplit

/-- **A word reads as what stands in its bytes.** -/
theorem reads_reading (w : Word) : Reads w.bytes (reading w) := by
  rcases w with ⟨_ | ⟨first, rest⟩⟩
  · exact .other
  by_cases hfirst : first = dash
  · subst hfirst
    rcases rest with _ | ⟨second, name⟩
    · exact .other
    by_cases hsecond : second = dash
    · subst hsecond
      rcases name with _ | ⟨third, more⟩
      · exact .separator
      · exact reads_longReading [dash, dash] (third :: more)
    · have hshort : reading ⟨dash :: second :: name⟩ = shortReading (second :: name) := by
        simp [reading, hsecond]
      rw [hshort]
      exact reads_shortReading (second :: name)
  · have hother : reading ⟨first :: rest⟩ = .other := by simp [reading, hfirst]
    rw [hother]
    exact .other

theorem mem_text_of_long {w value : Word} {o : AnyOption} (h : reading w = .long o (some value))
    {c : Char} (hc : c ∈ value.text.toList) : c ∈ w.text.toList := by
  have hreads := reads_reading w
  rw [h] at hreads
  cases hreads with
  | attached hbytes =>
    rw [Word.text, hbytes, Utf8.toList_decodeLossy_append_cons (by decide), List.mem_append,
      List.mem_cons]
    exact .inr (.inr hc)

theorem ascii_of_mem_shortLetters {b : UInt8} (h : Char.ofNat b.toNat ∈ shortLetters) : b < 0x80 := by
  have hsmall : ∀ c ∈ shortLetters, c.toNat < 0x80 := by
    -- letter by letter: characters are finitely many, and `decide` may go through all of them
    simp only [shortLetters, List.mem_cons, List.not_mem_nil, or_false, forall_eq_or_imp, forall_eq]
    decide
  have hvalid : b.toNat.isValidChar := .inl (by have := b.toNat_lt; omega)
  have hnat : (Char.ofNat b.toNat).toNat = b.toNat := by
    rw [Char.ofNat, dif_pos hvalid]
    rfl
  have hlt := hsmall _ h
  rw [hnat] at hlt
  exact UInt8.lt_iff_toNat_lt.2 hlt

/-- The letters of a cluster name options, and they stand in the word. -/
theorem letters_of_cluster {w : Word} {letters : List Char} (h : reading w = .cluster letters) :
    ∀ c ∈ letters, c ∈ shortLetters ∧ c ∈ w.text.toList := by
  have hreads := reads_reading w
  rw [h] at hreads
  cases hreads with
  | cluster hbytes hletters =>
    have hascii : ∀ b ∈ w.bytes, b < 0x80 := by
      rw [hbytes, List.forall_mem_cons]
      exact ⟨by decide, fun b hb => ascii_of_mem_shortLetters (hletters b hb)⟩
    intro c hc
    obtain ⟨b, hb, rfl⟩ := List.mem_map.1 hc
    refine ⟨hletters b hb, ?_⟩
    rw [Word.text, Utf8.toList_decodeLossy_ascii hascii, hbytes]
    exact List.mem_cons_of_mem _ hc

/-! ### All words -/

namespace Progress

/-- The value of an option so far. -/
def value? (s : Progress) : ValueOption → Option String
  | .output => s.output
  | .builddir => s.builddir
  | .cxx => s.cxx

theorem value?_put (s : Progress) (text : String) (o o' : ValueOption) :
    (s.put text o).value? o' = if o' = o then some text else s.value? o' := by
  cases o <;> cases o' <;> rfl

/-- **Settling either finds nothing to do or gives the open option its value.** -/
theorem settled_cases {s next : Progress} (h : s.settled = .ok next) :
    (s.open? = none ∧ next = s) ∨ ∃ o w, s.open? = some (o, some w) ∧
      next = ({ s with used := s.used ++ [.value o], open? := none } : Progress).put w.text o := by
  unfold settled settle at h
  rcases hopen : s.open? with _ | ⟨o, _ | w⟩
  · rw [hopen] at h
    cases h
    exact .inl ⟨rfl, rfl⟩
  · rw [hopen] at h
    cases h
  · rw [hopen] at h
    dsimp only at h
    split at h
    · rename_i heq
      split at heq
      · cases heq
      · split at heq
        · cases heq
          cases h
          exact .inr ⟨o, w, rfl, rfl⟩
        · cases heq
    · cases h

/-- All values so far are drawn from some words, and so is the value of the open option. -/
structure Drawn (words : List Word) (s : Progress) : Prop where
  /-- The values that are settled. -/
  value : ∀ {o text}, s.value? o = some text → DrawnFrom words text
  /-- The value that is to be settled. -/
  pending : ∀ {o w}, s.open? = some (o, some w) → DrawnFrom words w.text

namespace Drawn

variable {words : List Word} {s next : Progress}

theorem settled (h : s.Drawn words) (hs : s.settled = .ok next) : next.Drawn words := by
  rcases settled_cases hs with ⟨-, rfl⟩ | ⟨o, w, hopen, rfl⟩
  · exact h
  · refine ⟨?_, ?_⟩
    · intro o' text htext
      rw [value?_put] at htext
      split at htext
      · cases htext
        exact h.pending hopen
      · exact h.value htext
    · intro o' w' hopen'
      cases o <;> cases hopen'

theorem openOption (h : s.Drawn words) {o : ValueOption} {value : Option Word}
    (hvalue : ∀ w ∈ value, DrawnFrom words w.text) (hs : s.openOption o value = .ok next) :
    next.Drawn words := by
  obtain ⟨middle, hmiddle, hs⟩ := exists_of_bind_eq_ok hs
  cases hs
  refine ⟨(h.settled hmiddle).value, ?_⟩
  intro o w heq
  cases heq
  exact hvalue w rfl

theorem take (h : s.Drawn words) {o : ValueOption} {value : Word}
    (hvalue : DrawnFrom words value.text) (hs : s.take o value = .ok next) : next.Drawn words := by
  obtain ⟨middle, hmiddle, hs⟩ := exists_of_bind_eq_ok hs
  have hdrawn := h.openOption (fun w hw => Option.some.inj hw ▸ hvalue) hmiddle
  exact hdrawn.settled hs

theorem switch (h : s.Drawn words) {o : SwitchOption} (hs : s.switch o = .ok next) :
    next.Drawn words := by
  obtain ⟨middle, hmiddle, hs⟩ := exists_of_bind_eq_ok hs
  have hdrawn := h.settled hmiddle
  cases o with
  | help => cases hs
  | version => cases hs
  | verbose =>
    dsimp only at hs
    split at hs
    · cases hs
    · cases hs
      exact ⟨hdrawn.value, hdrawn.pending⟩

theorem cluster {letters : List Char} (h : s.Drawn words)
    (hletters : ∀ c ∈ letters, c ∈ shortLetters ∧ ∃ w ∈ words, c ∈ w.text.toList)
    (hs : s.cluster letters = .ok next) : next.Drawn words := by
  -- the rest of a cluster after any switch
  have hswitch : ∀ {o : SwitchOption} {rest : List Char} {s : Progress},
      (∀ s : Progress, s.Drawn words → s.cluster rest = .ok next → next.Drawn words) →
      s.Drawn words → (s.switch o >>= fun s => s.cluster rest) = .ok next → next.Drawn words := by
    intro o rest s ih h hs
    obtain ⟨middle, hmiddle, hs⟩ := exists_of_bind_eq_ok hs
    exact ih middle (h.switch hmiddle) hs
  fun_induction Progress.cluster s letters with
  | case1 s =>
    cases hs
    exact h
  | case2 s => exact h.openOption (by simp) hs
  | case3 s value _ =>
    have hvalue := fun c hc => hletters c (List.mem_cons_of_mem 'o' hc)
    refine h.take ?_ hs
    intro c hc
    rw [Word.text_ofText, String.toList_ofList] at hc
    exact (hvalue c hc).2
  | case4 s rest ih =>
    exact hswitch (fun s h => ih s h fun c hc => hletters c (List.mem_cons_of_mem _ hc)) h hs
  | case5 s rest ih =>
    exact hswitch (fun s h => ih s h fun c hc => hletters c (List.mem_cons_of_mem _ hc)) h hs
  | case6 s rest ih =>
    exact hswitch (fun s h => ih s h fun c hc => hletters c (List.mem_cons_of_mem _ hc)) h hs
  | case7 s c rest _ _ _ _ _ ih =>
    exact ih h (fun c hc => hletters c (List.mem_cons_of_mem _ hc)) hs

end Drawn

end Progress

/-- **Going through the words draws all values from them.** -/
theorem scan_drawn {words rest : List Word} (hsub : rest ⊆ words) {s : Progress}
    (h : s.Drawn words) {c : CommandLine} (hc : scan s rest = .ok c) :
    ∃ last : Progress, ∃ kept, last.Drawn words ∧ last.finish kept = .ok c := by
  induction rest generalizing s with
  | nil => exact ⟨s, [], h, hc⟩
  | cons w rest ih =>
    obtain ⟨hw, hrest⟩ := List.cons_subset.1 hsub
    have ih := fun {s : Progress} (h : s.Drawn words) hc => ih hrest (s := s) h hc
    rw [scan] at hc
    split at hc
    · exact ⟨s, rest, h, hc⟩
    · obtain ⟨next, hnext, hc⟩ := exists_of_bind_eq_ok hc
      exact ih (h.openOption (by simp) hnext) hc
    · rename_i hlong
      obtain ⟨next, hnext, hc⟩ := exists_of_bind_eq_ok hc
      exact ih (h.take (fun c hc => ⟨w, hw, mem_text_of_long hlong hc⟩) hnext) hc
    · obtain ⟨next, hnext, hc⟩ := exists_of_bind_eq_ok hc
      exact ih (h.switch hnext) hc
    · cases hc
    · cases hc
    · rename_i hcluster
      obtain ⟨next, hnext, hc⟩ := exists_of_bind_eq_ok hc
      have hletters := letters_of_cluster hcluster
      exact ih (h.cluster (fun c hc => ⟨(hletters c hc).1, w, hw, (hletters c hc).2⟩) hnext) hc
    · split at hc
      · rename_i o _
        have hdrawn : ({ s with open? := some (o, some w) } : Progress).Drawn words := by
          refine ⟨h.value, ?_⟩
          intro o' w' heq
          cases heq
          exact fun c hc => ⟨w, hw, hc⟩
        exact ih hdrawn hc
      · exact ⟨s, w :: rest, h, hc⟩

/-- The values of a command line. -/
def value (c : CommandLine) : ValueOption → String
  | .output => c.output.text
  | .builddir => c.settings.buildDirectory.text
  | .cxx => c.settings.compiler

/-- The value of an option that is not given. -/
def defaultValue : ValueOption → String
  | .output => "build.ninja"
  | .builddir => "build"
  | .cxx => "clang++"

/-- An accepted command line settles all options, and what is not given then has its default. -/
theorem exists_of_finish_eq_ok {s : Progress} {kept : List Word} {c : CommandLine}
    (h : s.finish kept = .ok c) :
    ∃ last : Progress, s.settled = .ok last ∧
      (∀ o, c.value o = (last.value? o).getD (defaultValue o)) ∧
      c.verbose = last.used.contains (.switch .verbose) ∧ c.passthrough = kept.map Word.text := by
  obtain ⟨last, hlast, h⟩ := exists_of_bind_eq_ok h
  split at h
  · cases h
    exact ⟨last, hlast, fun o => by cases o <;> rfl, rfl, rfl⟩
  · cases h

theorem value_of_finish {s : Progress} {kept : List Word} {c : CommandLine} {words : List Word}
    (h : s.Drawn words) (hc : s.finish kept = .ok c) (o : ValueOption) :
    c.value o = defaultValue o ∨ DrawnFrom words (c.value o) := by
  obtain ⟨last, hlast, hvalue, -, -⟩ := exists_of_finish_eq_ok hc
  rw [hvalue]
  cases htext : last.value? o with
  | none => exact .inl rfl
  | some text => exact .inr ((h.settled hlast).value htext)

/-- **The values of an accepted command line are drawn from its words**, unless they are the defaults. -/
theorem value_drawn {words : List Word} {c : CommandLine} (h : read words = .ok c) (o : ValueOption) :
    c.value o = defaultValue o ∨ DrawnFrom words (c.value o) := by
  have hstart : ({} : Progress).Drawn words := by
    refine ⟨?_, ?_⟩
    · intro o text htext
      cases o <;> cases htext
    · intro o w hopen
      cases hopen
  obtain ⟨last, kept, hlast, hfinish⟩ := scan_drawn (List.Subset.refl words) hstart h
  exact value_of_finish hlast hfinish o

end CommandLine

end BuildPlan
