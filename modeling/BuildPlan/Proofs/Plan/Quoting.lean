import BuildPlan.Helper.Command
import BuildPlan.Plan.Regeneration
import BuildPlan.Proofs.Outcome
import BuildPlan.Proofs.Shell.Words

/-!
# Command lines as they are written

Two texts are written for a shell: the arguments that a build file records, and the commands that are
shown to the user. Both are read back as the words that they were made of. The one thing that cannot be
written is a word with a NUL, since no program can be given one. There the two differ: arguments are
refused and the first such word is named, while a command is shown all the same.

* `Shell.NulFree` — the words that can be written.
* `Invocation.quotedArguments_of_nulFree`, `quotedArguments_eq_error_iff` — what becomes of arguments.
* `Command.display_of_nulFree`, `display_of_not_nulFree` — how a command is shown.
* **`written_words_are_read`** — both together.
-/

namespace BuildPlan

namespace Shell

/-- The word holds no NUL. -/
def NulFree (word : String) : Prop := '\x00' ∉ word.toList

instance (word : String) : Decidable (NulFree word) := inferInstanceAs (Decidable ('\x00' ∉ word.toList))

variable {word : String} {words : List String}

theorem quote?_of_nulFree (h : NulFree word) : quote? word = some (String.ofList (quoted word.toList)) := by
  rw [quote?, if_neg]
  rw [List.contains_iff_mem]
  exact h

theorem quote?_of_not_nulFree (h : ¬ NulFree word) : quote? word = none := by
  rw [quote?, if_pos]
  rw [List.contains_iff_mem]
  exact Decidable.not_not.1 h

/-- Quoted words with a space between two of them are a command line. -/
theorem intercalate_quoted (words : List String) :
    " ".intercalate (words.map fun word => String.ofList (quoted word.toList)) =
      String.ofList (commandLine words) := by
  rw [← String.toList_inj, String.toList_intercalate, String.toList_ofList, commandLine, List.map_map]
  simp [Function.comp_def]

theorem quoteAll?_of_nulFree (h : ∀ word ∈ words, NulFree word) :
    quoteAll? words = some (String.ofList (commandLine words)) := by
  have hall : words.mapM quote? = some (words.map fun word => String.ofList (quoted word.toList)) := by
    induction words with
    | nil => rfl
    | cons word words ih =>
      obtain ⟨hword, hwords⟩ := List.forall_mem_cons.1 h
      rw [List.mapM_cons, quote?_of_nulFree hword, ih hwords]
      rfl
  rw [quoteAll?, hall, Option.map_some, intercalate_quoted]

theorem quoteAll?_of_not_nulFree (h : word ∈ words) (hnul : ¬ NulFree word) : quoteAll? words = none := by
  have hnone : words.mapM quote? = none := by
    induction words with
    | nil => cases h
    | cons first words ih =>
      rw [List.mapM_cons]
      rcases List.mem_cons.1 h with rfl | h
      · rw [quote?_of_not_nulFree hnul]
        rfl
      · rw [ih h]
        cases quote? first <;> rfl
  rw [quoteAll?, hnone, Option.map_none]

end Shell

namespace Invocation

variable {i : Invocation} {word : String}

theorem quote_of_nulFree (h : Shell.NulFree word) :
    quote word = .ok (String.ofList (Shell.quoted word.toList)) := by
  rw [quote, Shell.quote?_of_nulFree h]

theorem quote_of_not_nulFree (h : ¬ Shell.NulFree word) :
    quote word = .error (.unquotableArgument word) := by
  rw [quote, Shell.quote?_of_not_nulFree h]

/-- What a word looks like when it is written for the shell. -/
theorem quote_eq_ok {quoted : String} (h : quote word = .ok quoted) :
    quoted = String.ofList (Shell.quoted word.toList) := by
  by_cases hfree : Shell.NulFree word
  · rw [quote_of_nulFree hfree] at h
    exact (Except.ok.inj h).symm
  · rw [quote_of_not_nulFree hfree] at h
    cases h

theorem quote_eq_error_iff {fault : PlanError} :
    quote word = .error fault ↔ ¬ Shell.NulFree word ∧ fault = .unquotableArgument word := by
  by_cases hfree : Shell.NulFree word
  · rw [quote_of_nulFree hfree]
    exact ⟨nofun, fun h => absurd hfree h.1⟩
  · rw [quote_of_not_nulFree hfree, Except.error.injEq, eq_comm]
    exact ⟨fun h => ⟨hfree, h⟩, fun h => h.2⟩

/-- The written arguments are a command line. -/
theorem quotedArguments_eq_ok {arguments : String} (h : i.quotedArguments = .ok arguments) :
    arguments = String.ofList (Shell.commandLine i.arguments) := by
  rw [quotedArguments] at h
  obtain ⟨quoted, hquoted, rfl⟩ := exists_of_map_eq_ok h
  rw [eq_map_of_mapM_eq_ok (fun _ _ => quote_eq_ok) hquoted, Shell.intercalate_quoted]

theorem quotedArguments_of_nulFree (h : ∀ a ∈ i.arguments, Shell.NulFree a) :
    i.quotedArguments = .ok (String.ofList (Shell.commandLine i.arguments)) := by
  rw [quotedArguments, mapM_eq_ok fun a ha => quote_of_nulFree (h a ha), ← Shell.intercalate_quoted]
  rfl

/-- **Arguments are refused for the first that holds a NUL.** -/
theorem quotedArguments_eq_error_iff {fault : PlanError} :
    i.quotedArguments = .error fault ↔
      ∃ before a after, i.arguments = before ++ a :: after ∧ ¬ Shell.NulFree a ∧
        (∀ b ∈ before, Shell.NulFree b) ∧ fault = .unquotableArgument a := by
  have hfree : ∀ b, (∃ quoted, quote b = .ok quoted) ↔ Shell.NulFree b := by
    intro b
    by_cases hb : Shell.NulFree b
    · exact ⟨fun _ => hb, fun _ => ⟨_, quote_of_nulFree hb⟩⟩
    · rw [quote_of_not_nulFree hb]
      exact ⟨nofun, fun h => absurd h hb⟩
  rw [quotedArguments, map_eq_error_iff, mapM_eq_error_iff]
  simp only [hfree, quote_eq_error_iff]
  constructor
  · rintro ⟨before, a, after, hsplit, ⟨ha, hfault⟩, hbefore⟩
    exact ⟨before, a, after, hsplit, ha, hbefore, hfault⟩
  · rintro ⟨before, a, after, hsplit, ha, hbefore, hfault⟩
    exact ⟨before, a, after, hsplit, ⟨ha, hfault⟩, hbefore⟩

end Invocation

namespace Command

variable {c : Command}

theorem display_of_nulFree (h : ∀ word ∈ c.words, Shell.NulFree word) :
    c.display = String.ofList (Shell.commandLine c.words) := by
  rw [display, Shell.quoteAll?_of_nulFree h, Option.getD_some]

theorem display_of_not_nulFree {word : String} (h : word ∈ c.words) (hnul : ¬ Shell.NulFree word) :
    c.display = " ".intercalate c.words := by
  rw [display, Shell.quoteAll?_of_not_nulFree h hnul, Option.getD_none]

end Command

/-- If some argument holds a NUL, there is a first one. -/
theorem Shell.exists_first_not_nulFree {words : List String} (h : ∃ a ∈ words, ¬ NulFree a) :
    ∃ before a after, words = before ++ a :: after ∧ ¬ NulFree a ∧ ∀ b ∈ before, NulFree b := by
  have hsome : (words.find? fun a => !decide (NulFree a)).isSome = true := by
    rw [List.find?_isSome]
    simpa using h
  obtain ⟨a, ha⟩ := Option.isSome_iff_exists.1 hsome
  obtain ⟨hnul, before, after, hsplit, hbefore⟩ := List.find?_eq_some_iff_append.1 ha
  exact ⟨before, a, after, hsplit, by simpa using hnul, by simpa using hbefore⟩

/-- **Written words are read back.** A shell reads the arguments that a build file records as those
arguments, and a command that is shown as its program and its arguments. If an argument holds a NUL, the
first such argument is refused by name, and the command is shown as its words with single spaces between
them. -/
theorem Shell.written_words_are_read (program : Path) (arguments : List String) (buildFile : Path) :
    ((∀ a ∈ arguments, NulFree a) →
      ∃ text, Invocation.quotedArguments ⟨program, arguments, buildFile⟩ = .ok text ∧
        words? text = some arguments) ∧
    ((∀ word ∈ program.text :: arguments, NulFree word) →
      words? (Command.display ⟨program, arguments⟩) = some (program.text :: arguments)) ∧
    ((∃ a ∈ arguments, ¬ NulFree a) →
      (∃ before a after, arguments = before ++ a :: after ∧ ¬ NulFree a ∧
        (∀ b ∈ before, NulFree b) ∧
        Invocation.quotedArguments ⟨program, arguments, buildFile⟩ = .error (.unquotableArgument a)) ∧
      Command.display ⟨program, arguments⟩ = " ".intercalate (program.text :: arguments)) := by
  refine ⟨?_, ?_, ?_⟩
  · intro hfree
    exact ⟨_, Invocation.quotedArguments_of_nulFree hfree, words?_commandLine arguments⟩
  · intro hfree
    have hdisplay : Command.display ⟨program, arguments⟩ = _ := Command.display_of_nulFree hfree
    rw [hdisplay]
    exact words?_commandLine (program.text :: arguments)
  · intro hnul
    obtain ⟨before, a, after, hsplit, ha, hbefore⟩ := exists_first_not_nulFree hnul
    have hmem : a ∈ arguments := by
      rw [hsplit]
      exact List.mem_append_right _ List.mem_cons_self
    refine ⟨⟨before, a, after, hsplit, ha, hbefore, ?_⟩, ?_⟩
    · exact Invocation.quotedArguments_eq_error_iff.2 ⟨before, a, after, hsplit, ha, hbefore, rfl⟩
    · exact Command.display_of_not_nulFree (List.mem_cons_of_mem _ hmem) ha

theorem Shell.written_words_are_read_mixed :
    (∃ text, Invocation.quotedArguments ⟨⟨"./my $prog"⟩, ["", "it's\n", "x^$'\"\\", "é^!"], ⟨"b"⟩⟩ =
        .ok text ∧ words? text = some ["", "it's\n", "x^$'\"\\", "é^!"]) ∧
      words? (Command.display ⟨⟨"./my $prog"⟩, ["", "it's\n", "x^$'\"\\", "é^!"]⟩) =
        some ["./my $prog", "", "it's\n", "x^$'\"\\", "é^!"] ∧
      Command.display ⟨⟨"./my $prog"⟩, ["a b", "\x00"]⟩ = "./my $prog a b \x00" := by
  have hread := written_words_are_read ⟨"./my $prog"⟩ ["", "it's\n", "x^$'\"\\", "é^!"] ⟨"b"⟩
  have hrefused := written_words_are_read ⟨"./my $prog"⟩ ["a b", "\x00"] ⟨"b"⟩
  refine ⟨hread.1 (by decide), hread.2.1 (by decide), ?_⟩
  rw [(hrefused.2.2 ⟨"\x00", by decide, by decide⟩).2]
  decide

end BuildPlan
