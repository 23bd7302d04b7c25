import BuildPlan.Proofs.CommandLine.Spelling
import Mathlib.Data.List.Nodup

/-!
# Words that are passed through

A command line starts with options and their values. The first word that is neither ends them, or the
separator does, and whatever comes after that is passed through. So once there is a word to pass through,
more words change nothing else, however they are spelled.

* `Given` — an option as it is given; `Spelled` says what a word gives, and `Spells` what words give.
* `Progress.Keeps` — the options that are settled are the ones that were given.
* `Progress.After` — the same with an option that is still open; `After.of_settled` is what all steps
  use, and `After.switch`, `After.openOption`, `After.take` and `After.cluster` say what each adds.
* `scan_option`, `scan_plain`, `scan_separator` — what one more word does.
* `scan_spells` — going through words reads options up to the words that are passed through.
* `Follows` — the command line says what was given.
* `scan_append` — more words after those that are passed through are passed through as well.
* **`read_passthrough`** — all of it, for a command line that is accepted.
-/

namespace BuildPlan

namespace CommandLine

/-! ### Options as they are given -/

/-- An option as it is given on a command line. -/
inductive Given where
  /-- An option with its value. -/
  | value (o : ValueOption) (text : String)
  /-- The option to log what happens. -/
  | verbose
deriving DecidableEq

/-- The option that is given. -/
def Given.option : Given → AnyOption
  | .value o _ => .value o
  | .verbose => .switch .verbose

/-- What the letters of a cluster give, and the option that is left without a value at their end. -/
inductive Letters : List Char → List Given → Option ValueOption → Prop
  | done : Letters [] [] none
  | verbose {rest : List Char} {given : List Given} {left : Option ValueOption}
      (h : Letters rest given left) : Letters ('v' :: rest) (.verbose :: given) left
  | attached {value : List Char} (nonempty : value ≠ []) :
      Letters ('o' :: value) [.value .output (String.ofList value)] none
  | left : Letters ['o'] [] (some .output)

/-- What a word gives, and the option that it leaves without a value. -/
inductive Spelled : String → List Given → Option ValueOption → Prop
  /-- The long name of an option that takes a value. -/
  | bare {name : String} {o : ValueOption} (known : (name, .value o) ∈ longNames) :
      Spelled ("--" ++ name) [] (some o)
  /-- The long name of an option with its value. -/
  | attached {name value : String} {o : ValueOption} (known : (name, .value o) ∈ longNames) :
      Spelled ("--" ++ name ++ "=" ++ value) [.value o value] none
  /-- The long name of the option that takes none. -/
  | verbose {name : String} (known : (name, .switch .verbose) ∈ longNames) :
      Spelled ("--" ++ name) [.verbose] none
  /-- A cluster of short options. -/
  | cluster {letters : List Char} {given : List Given} {left : Option ValueOption}
      (nonempty : letters ≠ []) (known : ∀ c ∈ letters, c ∈ shortLetters)
      (h : Letters letters given left) : Spelled (String.ofList ('-' :: letters)) given left

/-- What words give that are options with their values, and the option that they leave without a value. -/
inductive Spells : List String → List Given → Option ValueOption → Prop
  /-- No words. -/
  | nil : Spells [] [] none
  /-- One more option, or several in a cluster. -/
  | word {words : List String} {given more : List Given} {w : String} {left : Option ValueOption}
      (h : Spells words given none) (hw : Spelled w more left) : Spells (words ++ [w]) (given ++ more) left
  /-- The value of the option before. -/
  | value {words : List String} {given : List Given} {w : String} {o : ValueOption}
      (h : Spells words given (some o)) (hw : IsPlain w) : Spells (words ++ [w]) (given ++ [.value o w]) none

theorem ne_separator_of_isOption {text : String} (h : IsOption text) : text ≠ "--" := by
  intro heq
  have hseparator : reading (.ofText text) = .separator := by rw [heq, reading_separator]
  cases h with
  | bare known =>
    rw [reading_bare known] at hseparator
    cases hseparator
  | @attached name value o known =>
    rw [reading_attached known value] at hseparator
    cases hseparator
  | cluster nonempty known =>
    rw [reading_cluster nonempty known] at hseparator
    cases hseparator

theorem Spelled.isOption {w : String} {given : List Given} {left : Option ValueOption}
    (h : Spelled w given left) : IsOption w := by
  cases h with
  | bare known => exact .bare known
  | attached known => exact .attached known
  | verbose known => exact .bare known
  | cluster nonempty known _ => exact .cluster nonempty known

/-- No word of the options is the separator. -/
theorem Spells.separator_notMem {words : List String} {given : List Given} {left : Option ValueOption}
    (h : Spells words given left) : "--" ∉ words := by
  have hsnoc : ∀ {words : List String} {w : String},
      "--" ∉ words → w ≠ "--" → "--" ∉ words ++ [w] := by
    intro words w hwords hw
    simp [hwords, hw.symm]
  induction h with
  | nil => exact List.not_mem_nil
  | word _ hw ih => exact hsnoc ih (ne_separator_of_isOption hw.isOption)
  | value _ hw ih => exact hsnoc ih hw.1

theorem notMem_shortLetters {c : Char} (ho : c ≠ 'o') (hv : c ≠ 'v') (hh : c ≠ 'h') (hV : c ≠ 'V') :
    c ∉ shortLetters := by
  simp [shortLetters, ho, hv, hh, hV]

/-! ### Options that are settled -/

namespace Progress

variable {s next : Progress} {given : List Given}

/-- The options that are settled are the ones that were given, each once. -/
structure Keeps (s : Progress) (given : List Given) : Prop where
  /-- The options in use. -/
  used : s.used = given.map Given.option
  /-- None of them is given twice. -/
  once : (given.map Given.option).Nodup
  /-- The values are those that were given. -/
  value : ∀ o text, s.value? o = some text ↔ .value o text ∈ given

theorem keeps_start : ({} : Progress).Keeps [] :=
  ⟨rfl, List.nodup_nil, fun o text => by cases o <;> simp [value?]⟩

namespace Keeps

/-- Which option is open does not matter for the others. -/
theorem reopen (h : s.Keeps given) (open? : Option (ValueOption × Option Word)) :
    ({ s with open? := open? } : Progress).Keeps given :=
  ⟨h.used, h.once, h.value⟩

/-- One more option is in use, and none is given twice. -/
theorem used_append (h : s.Keeps given) {g : Given} (hnew : g.option ∉ s.used) :
    s.used ++ [g.option] = (given ++ [g]).map Given.option ∧
      ((given ++ [g]).map Given.option).Nodup := by
  rw [h.used] at hnew ⊢
  rw [List.map_append, List.map_singleton, ← List.concat_eq_append]
  exact ⟨rfl, List.Nodup.concat hnew h.once⟩

/-- An option that was not in use gets its value. -/
theorem put (h : s.Keeps given) {o : ValueOption} {text : String} (hnew : .value o ∉ s.used) :
    (({ s with used := s.used ++ [.value o], open? := none } : Progress).put text o).Keeps
      (given ++ [.value o text]) := by
  obtain ⟨hused, honce⟩ := h.used_append (g := .value o text) hnew
  have hnone : ∀ other, .value o other ∉ given := by
    intro other hother
    rw [h.used] at hnew
    exact hnew (List.mem_map_of_mem hother)
  refine ⟨?_, honce, ?_⟩
  · rw [← hused]
    cases o <;> rfl
  · intro o' other
    rw [value?_put, List.mem_append, List.mem_singleton, Given.value.injEq]
    split
    · rename_i heq
      rw [heq]
      simp [hnone, eq_comm]
    · rename_i hne
      change s.value? o' = some other ↔ _
      simp [hne, h.value o' other]

end Keeps

/-- What the words so far have given, with the option that is open. -/
inductive After : Progress → List Given → Option ValueOption → Prop
  /-- All options are settled. -/
  | settled {s : Progress} {given : List Given} (keeps : s.Keeps given) (closed : s.open? = none) :
      After s given none
  /-- The last option has its value, but is not settled. -/
  | pending {s : Progress} {given : List Given} {o : ValueOption} {w : Word} (keeps : s.Keeps given)
      (opened : s.open? = some (o, some w)) : After s (given ++ [.value o w.text]) none
  /-- The last option has no value so far. -/
  | awaiting {s : Progress} {given : List Given} {o : ValueOption} (keeps : s.Keeps given)
      (opened : s.open? = some (o, none)) : After s given (some o)

/-- An option is settled only if it has not been given before. -/
theorem notMem_used_of_settled {o : ValueOption} {w : Word} (hopen : s.open? = some (o, some w))
    (hs : s.settled = .ok next) : .value o ∉ s.used := by
  intro hused
  rw [settled, settle, hopen] at hs
  simp [hused] at hs

/-- Any cluster settles the open option first. -/
theorem settled_of_cluster {letters : List Char} (nonempty : letters ≠ [])
    (known : ∀ c ∈ letters, c ∈ shortLetters) (hs : s.cluster letters = .ok next) :
    ∃ middle, s.settled = .ok middle := by
  have hswitch : ∀ {s : Progress} {o : SwitchOption} {rest : List Char},
      (s.switch o >>= fun s => s.cluster rest) = .ok next → ∃ middle, s.settled = .ok middle := by
    intro s o rest hs
    obtain ⟨middle, hmiddle, -⟩ := exists_of_bind_eq_ok hs
    obtain ⟨first, hfirst, -⟩ := exists_of_bind_eq_ok hmiddle
    exact ⟨first, hfirst⟩
  fun_induction Progress.cluster s letters with
  | case1 => exact absurd rfl nonempty
  | case2 =>
    obtain ⟨first, hfirst, -⟩ := exists_of_bind_eq_ok hs
    exact ⟨first, hfirst⟩
  | case3 s value _ =>
    obtain ⟨middle, hmiddle, -⟩ := exists_of_bind_eq_ok hs
    obtain ⟨first, hfirst, -⟩ := exists_of_bind_eq_ok hmiddle
    exact ⟨first, hfirst⟩
  | case4 s rest ih => exact hswitch hs
  | case5 s rest ih => exact hswitch hs
  | case6 s rest ih => exact hswitch hs
  | case7 s c rest _ ho hv hh hV =>
    exact absurd (known c List.mem_cons_self) (notMem_shortLetters ho hv hh hV)

namespace After

variable {left : Option ValueOption}

/-- **Settling keeps what was given**, and no option is left without a value. -/
theorem of_settled (h : s.After given left) (hs : s.settled = .ok next) :
    left = none ∧ next.Keeps given ∧ next.open? = none := by
  rcases settled_cases hs with ⟨hclosed, rfl⟩ | ⟨o, w, hopened, rfl⟩
  · cases h with
    | settled keeps closed => exact ⟨rfl, keeps, closed⟩
    | pending keeps opened => rw [opened] at hclosed; cases hclosed
    | awaiting keeps opened => rw [opened] at hclosed; cases hclosed
  · cases h with
    | settled keeps closed => rw [closed] at hopened; cases hopened
    | pending keeps opened =>
      rw [opened] at hopened
      cases hopened
      exact ⟨rfl, keeps.put (notMem_used_of_settled opened hs), by cases o <;> rfl⟩
    | awaiting keeps opened => rw [opened] at hopened; cases hopened

/-- A switch that does not end the program is `--verbose`. -/
theorem switch {o : SwitchOption} (h : s.After given left) (hs : s.switch o = .ok next) :
    left = none ∧ o = .verbose ∧ next.After (given ++ [.verbose]) none := by
  obtain ⟨middle, hmiddle, hs⟩ := exists_of_bind_eq_ok hs
  obtain ⟨hleft, hkeeps, hclosed⟩ := h.of_settled hmiddle
  cases o with
  | help => cases hs
  | version => cases hs
  | verbose =>
    dsimp only at hs
    split at hs
    · cases hs
    · rename_i hnew
      cases hs
      rw [List.contains_iff_mem] at hnew
      obtain ⟨hused, honce⟩ := hkeeps.used_append (g := .verbose) hnew
      have hvalue : ∀ o text, middle.value? o = some text ↔ .value o text ∈ given ++ [.verbose] := by
        intro o text
        simpa using hkeeps.value o text
      exact ⟨hleft, rfl, .settled ⟨hused, honce, hvalue⟩ hclosed⟩

theorem openOption {o : ValueOption} {value : Option Word} (h : s.After given left)
    (hs : s.openOption o value = .ok next) :
    left = none ∧ next.Keeps given ∧ next.open? = some (o, value) := by
  obtain ⟨middle, hmiddle, hs⟩ := exists_of_bind_eq_ok hs
  obtain ⟨hleft, hkeeps, -⟩ := h.of_settled hmiddle
  cases hs
  exact ⟨hleft, hkeeps.reopen _, rfl⟩

theorem take {o : ValueOption} {value : Word} (h : s.After given left)
    (hs : s.take o value = .ok next) :
    left = none ∧ next.After (given ++ [.value o value.text]) none := by
  obtain ⟨middle, hmiddle, hs⟩ := exists_of_bind_eq_ok hs
  obtain ⟨hleft, hkeeps, hopened⟩ := h.openOption hmiddle
  obtain ⟨-, hkeeps, hclosed⟩ := (After.pending hkeeps hopened).of_settled hs
  exact ⟨hleft, .settled hkeeps hclosed⟩

/-- **A cluster gives what its letters give.** -/
theorem cluster {letters : List Char} (h : s.After given none)
    (known : ∀ c ∈ letters, c ∈ shortLetters) (hs : s.cluster letters = .ok next) :
    ∃ more left, Letters letters more left ∧ next.After (given ++ more) left := by
  fun_induction Progress.cluster s letters generalizing given with
  | case1 s =>
    cases hs
    exact ⟨[], none, .done, by rwa [List.append_nil]⟩
  | case2 s =>
    obtain ⟨-, hkeeps, hopened⟩ := h.openOption hs
    exact ⟨[], some .output, .left, by rw [List.append_nil]; exact .awaiting hkeeps hopened⟩
  | case3 s value nonempty =>
    obtain ⟨-, hafter⟩ := h.take hs
    rw [Word.text_ofText] at hafter
    exact ⟨_, none, .attached fun hnil => nonempty (hnil ▸ rfl), hafter⟩
  | case4 s rest ih =>
    obtain ⟨middle, hmiddle, hs⟩ := exists_of_bind_eq_ok hs
    obtain ⟨-, -, hafter⟩ := h.switch hmiddle
    obtain ⟨more, left, hletters, hnext⟩ :=
      ih middle hafter (fun c hc => known c (List.mem_cons_of_mem _ hc)) hs
    exact ⟨.verbose :: more, left, .verbose hletters, by rwa [List.append_assoc] at hnext⟩
  | case5 s rest ih =>
    obtain ⟨middle, hmiddle, -⟩ := exists_of_bind_eq_ok hs
    obtain ⟨-, hverbose, -⟩ := h.switch hmiddle
    cases hverbose
  | case6 s rest ih =>
    obtain ⟨middle, hmiddle, -⟩ := exists_of_bind_eq_ok hs
    obtain ⟨-, hverbose, -⟩ := h.switch hmiddle
    cases hverbose
  | case7 s c rest _ ho hv hh hV =>
    exact absurd (known c List.mem_cons_self) (notMem_shortLetters ho hv hh hV)

end After

end Progress

/-! ### Single words -/

section

variable {s : Progress} {given : List Given} {left : Option ValueOption} {w : String} {rest : List Word}
  {c : CommandLine}

/-- **An option gives what it is spelled as**, and none is open before it. -/
theorem scan_option (hw : IsOption w) (h : s.After given left)
    (hc : scan s (.ofText w :: rest) = .ok c) :
    left = none ∧ ∃ more left', ∃ next : Progress, Spelled w more left' ∧
      next.After (given ++ more) left' ∧ scan next rest = .ok c := by
  rw [scan] at hc
  cases hw with
  | @bare name o known =>
    rw [reading_bare known] at hc
    cases o with
    | value o =>
      obtain ⟨next, hnext, hc⟩ := exists_of_bind_eq_ok hc
      obtain ⟨hleft, hkeeps, hopened⟩ := h.openOption hnext
      refine ⟨hleft, [], some o, next, .bare known, ?_, hc⟩
      rw [List.append_nil]
      exact .awaiting hkeeps hopened
    | switch o =>
      obtain ⟨next, hnext, hrest⟩ := exists_of_bind_eq_ok hc
      obtain ⟨hleft, rfl, hafter⟩ := h.switch hnext
      exact ⟨hleft, [.verbose], none, next, .verbose known, hafter, hrest⟩
  | @attached name value o known =>
    rw [reading_attached known value] at hc
    cases o with
    | value o =>
      obtain ⟨next, hnext, hc⟩ := exists_of_bind_eq_ok hc
      obtain ⟨hleft, hnext⟩ := h.take hnext
      rw [Word.text_ofText] at hnext
      exact ⟨hleft, [.value o value], none, next, .attached known, hnext, hc⟩
    | switch o => cases hc
  | @cluster letters nonempty known =>
    rw [reading_cluster nonempty known] at hc
    obtain ⟨next, hnext, hc⟩ := exists_of_bind_eq_ok hc
    obtain ⟨middle, hmiddle⟩ := Progress.settled_of_cluster nonempty known hnext
    obtain ⟨rfl, -, -⟩ := h.of_settled hmiddle
    obtain ⟨more, left', hletters, hnext⟩ := h.cluster known hnext
    exact ⟨rfl, more, left', next, .cluster nonempty known hletters, hnext, hc⟩

/-- **A plain word is the value of an option that has none**, or it ends the options. -/
theorem scan_plain (hw : IsPlain w) (h : s.After given left)
    (hc : scan s (.ofText w :: rest) = .ok c) :
    (∃ o, ∃ next : Progress, left = some o ∧ next.After (given ++ [.value o w]) none ∧
      scan next rest = .ok c) ∨ s.finish (.ofText w :: rest) = .ok c := by
  rw [scan, reading_of_isPlain hw] at hc
  cases h with
  | settled keeps closed =>
    rw [closed] at hc
    exact .inr hc
  | pending keeps opened =>
    rw [opened] at hc
    exact .inr hc
  | @awaiting _ o keeps opened =>
    rw [opened] at hc
    refine .inl ⟨o, _, rfl, ?_, hc⟩
    have hafter := Progress.After.pending (keeps.reopen (some (o, some (.ofText w)))) rfl
    rwa [Word.text_ofText] at hafter

theorem scan_separator : scan s (.ofText "--" :: rest) = s.finish rest := by
  rw [scan, reading_separator]

end

/-! ### All words -/

/-- **Going through words reads options up to the words that are passed through.** -/
theorem scan_spells {words rest : List String} {given : List Given} {left : Option ValueOption}
    {s : Progress} {c : CommandLine} (hspells : Spells words given left) (h : s.After given left)
    (hc : scan s (rest.map .ofText) = .ok c) :
    ∃ options separator kept, ∃ given : List Given, ∃ last : Progress,
      words ++ rest = options ++ separator ++ kept ∧ Spells options given none ∧
      last.After given none ∧ last.finish (kept.map .ofText) = .ok c ∧
      (separator = ["--"] ∨ separator = [] ∧ ∀ w ∈ kept.head?, IsPlain w) := by
  induction rest generalizing words given left s with
  | nil =>
    obtain ⟨last, hlast, -⟩ := exists_of_finish_eq_ok hc
    obtain ⟨rfl, -, -⟩ := h.of_settled hlast
    exact ⟨words, [], [], given, s, by simp, hspells, h, hc, .inr ⟨rfl, nofun⟩⟩
  | cons w rest ih =>
    rw [List.append_cons]
    rw [List.map_cons] at hc
    -- what settles the options also says that none of them is open
    have hfinished : ∀ {kept}, s.finish kept = .ok c → left = none := by
      intro kept hc
      obtain ⟨last, hlast, -⟩ := exists_of_finish_eq_ok hc
      exact (h.of_settled hlast).1
    rcases spelling_cases w with hplain | rfl | hoption
    · rcases scan_plain hplain h hc with ⟨o, next, rfl, hnext, hc⟩ | hc
      · exact ih (hspells.value hplain) hnext hc
      · obtain rfl := hfinished hc
        exact ⟨words, [], w :: rest, given, s, by simp, hspells, h, hc, .inr ⟨rfl, by simpa⟩⟩
    · rw [scan_separator] at hc
      obtain rfl := hfinished hc
      exact ⟨words, ["--"], rest, given, s, by simp, hspells, h, hc, .inl rfl⟩
    · obtain ⟨rfl, more, left', next, hw, hnext, hc⟩ := scan_option hoption h hc
      exact ih (hspells.word hw) hnext hc

/-! ### What the options say -/

/-- The command line says what was given, and nothing else. -/
structure Follows (c : CommandLine) (given : List Given) : Prop where
  /-- No option is given twice. -/
  once : (given.map Given.option).Nodup
  /-- A value that is given. -/
  value : ∀ {o text}, .value o text ∈ given → c.value o = text
  /-- An option that is not given has its default. -/
  default : ∀ {o}, (∀ text, .value o text ∉ given) → c.value o = defaultValue o
  /-- What happens is logged if this is given. -/
  verbose : c.verbose = true ↔ .verbose ∈ given

theorem follows_of_finish {s : Progress} {given : List Given} {kept : List Word} {c : CommandLine}
    (h : s.After given none) (hc : s.finish kept = .ok c) : c.Follows given := by
  obtain ⟨last, hlast, hvalue, hverbose, -⟩ := exists_of_finish_eq_ok hc
  obtain ⟨-, hkeeps, -⟩ := h.of_settled hlast
  refine ⟨hkeeps.once, ?_, ?_, ?_⟩
  · intro o text hgiven
    rw [hvalue, (hkeeps.value o text).2 hgiven, Option.getD_some]
  · intro o hgiven
    have hnone : last.value? o = none := by
      rw [Option.eq_none_iff_forall_ne_some]
      exact fun text htext => hgiven text ((hkeeps.value o text).1 htext)
    rw [hvalue, hnone, Option.getD_none]
  · rw [hverbose, List.contains_iff_mem, hkeeps.used, List.mem_map]
    constructor
    · rintro ⟨g, hg, heq⟩
      cases g with
      | value o text => cases heq
      | verbose => exact hg
    · exact fun hg => ⟨.verbose, hg, rfl⟩

/-! ### More words -/

section

variable {s : Progress} {c : CommandLine} {more : List Word}

theorem finish_append {kept : List Word} (h : s.finish kept = .ok c) (hmore : ∀ w ∈ more, w.intact) :
    s.finish (kept ++ more) = .ok { c with passthrough := c.passthrough ++ more.map Word.text } := by
  obtain ⟨last, hlast, h⟩ := exists_of_bind_eq_ok h
  split at h
  · rename_i hkept
    cases h
    have hall : (kept ++ more).all Word.intact = true := by
      rw [List.all_append, hkept, Bool.true_and, List.all_eq_true]
      exact hmore
    rw [Progress.finish, hlast, List.map_append]
    exact if_pos hall
  · cases h

/-- **Where a word is passed through, more words after it are passed through as well.** -/
theorem scan_append {words : List Word} (h : scan s words = .ok c) (hkept : c.passthrough ≠ [])
    (hmore : ∀ w ∈ more, w.intact) :
    scan s (words ++ more) =
      .ok { c with passthrough := c.passthrough ++ more.map Word.text } := by
  induction words generalizing s with
  | nil =>
    obtain ⟨-, -, -, -, hnil⟩ := exists_of_finish_eq_ok h
    exact absurd hnil hkept
  | cons w words ih =>
    rw [List.cons_append]
    rw [scan] at h ⊢
    split at h
    · exact finish_append h hmore
    · exact bind_eq_ok_of_imp h fun next h => ih h
    · exact bind_eq_ok_of_imp h fun next h => ih h
    · exact bind_eq_ok_of_imp h fun next h => ih h
    · cases h
    · cases h
    · exact bind_eq_ok_of_imp h fun next h => ih h
    · split at h
      · exact ih h
      · exact finish_append h hmore

end

/-- **Options come first, and what comes after them is passed through.** The words of an accepted
command line are options with their values, which it follows; then perhaps the separator; then the words
that are passed through, of which the first is plain if there is no separator. If there are any such
words, then more of them, whatever they are, are passed through too and change nothing else. -/
theorem read_passthrough {words : List String} {c : CommandLine}
    (h : read (words.map .ofText) = .ok c) :
    (∃ options separator given,
      words = options ++ separator ++ c.passthrough ∧ Spells options given none ∧ "--" ∉ options ∧
      c.Follows given ∧
      (separator = ["--"] ∨ separator = [] ∧ ∀ w ∈ c.passthrough.head?, IsPlain w)) ∧
    (c.passthrough ≠ [] → ∀ more : List String,
      read ((words ++ more).map .ofText) = .ok { c with passthrough := c.passthrough ++ more }) := by
  have htexts : ∀ texts : List String, (texts.map Word.ofText).map Word.text = texts := by
    intro texts
    simp [Function.comp_def]
  constructor
  · have hstart : ({} : Progress).After [] none := .settled Progress.keeps_start rfl
    obtain ⟨options, separator, kept, given, last, hwords, hspells, hlast, hfinish, hseparator⟩ :=
      scan_spells .nil hstart h
    obtain ⟨-, -, -, -, hkept⟩ := exists_of_finish_eq_ok hfinish
    rw [htexts] at hkept
    rw [List.nil_append] at hwords
    subst hkept
    exact ⟨options, separator, given, hwords, hspells, hspells.separator_notMem,
      follows_of_finish hlast hfinish, hseparator⟩
  · intro hkept more
    have hmore : ∀ w ∈ more.map Word.ofText, w.intact := by
      intro w hw
      obtain ⟨text, -, rfl⟩ := List.mem_map.1 hw
      exact Word.intact_ofText text
    have happend := scan_append h hkept hmore
    rw [htexts, ← List.map_append] at happend
    exact happend

/-- A cluster, its value and a long option come before the words that are passed through; options and
separators after them are passed through as well. -/
theorem read_passthrough_options :
    read (["-vo", "f", "--cxx=g++", "x", "-v"].map .ofText) =
        .ok ⟨⟨"f"⟩, true, ⟨⟨"build"⟩, "g++"⟩, ["x", "-v"]⟩ ∧
      read (["-vo", "f", "--cxx=g++", "x", "-v", "--output", "--", "-o"].map .ofText) =
        .ok ⟨⟨"f"⟩, true, ⟨⟨"build"⟩, "g++"⟩, ["x", "-v", "--output", "--", "-o"]⟩ := by
  have h : read (["-vo", "f", "--cxx=g++", "x", "-v"].map .ofText) =
      .ok ⟨⟨"f"⟩, true, ⟨⟨"build"⟩, "g++"⟩, ["x", "-v"]⟩ := by decide
  exact ⟨h, (read_passthrough h).2 (by decide) ["--output", "--", "-o"]⟩

end CommandLine

end BuildPlan
