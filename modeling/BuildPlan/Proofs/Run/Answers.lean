import BuildPlan.Proofs.Run.Emission
import BuildPlan.Proofs.Text.Words

/-!
# What the helper answers

The helper is asked three questions, and its three outputs become the flags of a request: the compile flags
stand behind the language standard, and the link flags stand before the libraries. On the way the outputs are
normalised and put together. The words of the outputs come through this as they are and in order, and there
are no line breaks left.

* `Request.dialogue` — the commands given to the helper, each with what came of it;
  `exists_dialogue_of_probed` says that flags are the normalised outputs of a dialogue in which nothing
  failed, and `probed_ne_plan` that nothing that fails there is a fault of the plan.
* `Assembly.toList_joinFlags` — flags put together are their words one after the other.
* `Request.isMultiline_of_probed` — flags put together fit on one line, whatever the helper says.
-/

namespace BuildPlan

/-! ### The dialogue with the helper -/

namespace Toolchain

/-- The commands that put questions in turn, each with what came of it, up to the first that gets no
answer. -/
def dialogue (r : Responder) (helper : Path) (before : Nat) (tree : FileTree) :
    List Query → List (Command × Reply)
  | [] => []
  | question :: rest =>
    let (after, reply) := r.answer tree before (question.command helper)
    (question.command helper, reply) ::
      match reply with
      | .ok _ => dialogue r helper (before + 1) after rest
      | .error _ => []

/-- The commands of the dialogue are the commands given. -/
theorem map_fst_dialogue (r : Responder) (helper : Path) (questions : List Query) :
    ∀ before tree, (dialogue r helper before tree questions).map Prod.fst =
      commandsFrom r helper before tree questions := by
  induction questions with
  | nil => exact fun _ _ => rfl
  | cons question rest ih =>
    intro before tree
    rw [dialogue, commandsFrom, run_ask]
    rcases r.answer tree before (question.command helper) with ⟨after, _ | answer⟩
    · rfl
    · simp only [List.map_cons, Except.map, Except.mapError, ih]

/-- A step that hands on has succeeded, and so has the next. -/
theorem exists_of_run_bind_eq_ok {α β : Type} {x : Asking α} {f : α → Asking β}
    {tree after : FileTree} {b : β} (h : (x >>= f).run tree = (.ok b, after)) :
    ∃ a between, x.run tree = (.ok a, between) ∧ (f a).run between = (.ok b, after) := by
  rw [run_bind] at h
  rcases hx : x.run tree with ⟨reply, between⟩
  rw [hx] at h
  cases reply with
  | error fault => cases h
  | ok a => exact ⟨a, between, rfl, h⟩

/-- A fault that neither of two steps finds is not found by the two together. -/
theorem run_bind_ne_error {α β : Type} {x : Asking α} {f : α → Asking β} {fault : RunError}
    (hx : ∀ tree, (x.run tree).1 ≠ .error fault) (hf : ∀ a tree, ((f a).run tree).1 ≠ .error fault)
    (tree : FileTree) : ((x >>= f).run tree).1 ≠ .error fault := by
  rw [run_bind]
  cases hreply : (x.run tree).1 with
  | error other =>
    intro h
    have hother : other = fault := Except.error.inj h
    rw [hother] at hreply
    exact hx tree hreply
  | ok a => exact hf a _

/-- A question that gets an answer has a normalised output as its answer. -/
theorem exists_of_run_ask_eq_ok {r : Responder} {helper : Path} {before : Nat} {question : Query}
    {tree after : FileTree} {flags : String}
    (h : (ask r helper before question).run tree = (.ok flags, after)) :
    ∃ output, r.answer tree before (question.command helper) = (after, .ok output) ∧
      flags = normalise output := by
  rw [run_ask] at h
  obtain ⟨hreply, hafter⟩ := Prod.mk.inj h
  obtain ⟨output, houtput, hflags⟩ := exists_of_map_eq_ok (eq_ok_of_mapError_eq_ok hreply)
  exact ⟨output, Prod.ext hafter houtput, hflags.symm⟩

theorem exists_dialogue_of_probe {r : Responder} {helper : Path} {tree after : FileTree}
    {flags : ToolchainFlags} (h : (probe r helper).run tree = (.ok flags, after)) :
    ∃ compile link libraries,
      dialogue r helper 0 tree [.compile, .link, .libraries] =
        [(⟨helper, ["--cflags"]⟩, .ok compile), (⟨helper, ["--ldflags"]⟩, .ok link),
         (⟨helper, ["--libs", "core", "object", "scalaropts"]⟩, .ok libraries)] ∧
      flags = ⟨normalise compile, normalise link, normalise libraries⟩ := by
  obtain ⟨_, tree₁, hcompile, h⟩ := exists_of_run_bind_eq_ok h
  obtain ⟨_, tree₂, hlink, h⟩ := exists_of_run_bind_eq_ok h
  obtain ⟨_, tree₃, hlibraries, h⟩ := exists_of_run_bind_eq_ok h
  obtain ⟨compile, hanswer₁, rfl⟩ := exists_of_run_ask_eq_ok hcompile
  obtain ⟨link, hanswer₂, rfl⟩ := exists_of_run_ask_eq_ok hlink
  obtain ⟨libraries, hanswer₃, rfl⟩ := exists_of_run_ask_eq_ok hlibraries
  refine ⟨compile, link, libraries, ?_, ?_⟩
  · simp only [dialogue, hanswer₁, hanswer₂, hanswer₃]
    rfl
  · cases h
    rfl

theorem run_ask_ne_plan (r : Responder) (helper : Path) (before : Nat) (question : Query)
    (fault : PlanError) (tree : FileTree) :
    ((ask r helper before question).run tree).1 ≠ .error (.plan fault) := by
  intro h
  rw [run_ask] at h
  obtain ⟨failure, -, hfault⟩ := exists_of_mapError_eq_error h
  cases hfault

/-- Asking the helper finds no fault with the plan. -/
theorem run_probe_ne_plan (r : Responder) (helper : Path) (fault : PlanError) (tree : FileTree) :
    ((probe r helper).run tree).1 ≠ .error (.plan fault) := by
  refine run_bind_ne_error (run_ask_ne_plan r helper 0 .compile fault) (fun compile => ?_) tree
  refine run_bind_ne_error (run_ask_ne_plan r helper 1 .link fault) fun link => ?_
  refine run_bind_ne_error (run_ask_ne_plan r helper 2 .libraries fault) fun libraries tree h => ?_
  cases h

/-- The words of an output, with single spaces between them. -/
theorem normalise_eq (output : String) :
    normalise output = String.ofList (Text.unwords (Text.words output.toList)) := rfl

end Toolchain

/-! ### Flags put together -/

namespace Assembly

/-- **Flags put together are their words one after the other**, also where there are none. -/
theorem toList_joinFlags {ws us : List (List Char)} (hws : Text.AreWords ws)
    (hus : Text.AreWords us) :
    (joinFlags (String.ofList (Text.unwords ws)) (String.ofList (Text.unwords us))).toList =
      Text.unwords (ws ++ us) := by
  have hempty : ∀ {vs : List (List Char)}, Text.AreWords vs →
      ((String.ofList (Text.unwords vs)).isEmpty = true ↔ vs = []) := by
    intro vs hvs
    rw [String.isEmpty_iff, ← String.toList_inj, String.toList_ofList, ← Text.unwords_eq_nil_iff hvs]
    rfl
  rw [joinFlags]
  by_cases hnone : us = []
  · rw [if_pos ((hempty hus).2 hnone), hnone, List.append_nil, String.toList_ofList]
  · rw [if_neg fun h => hnone ((hempty hus).1 h)]
    by_cases hfirst : ws = []
    · rw [if_pos ((hempty hws).2 hfirst), hfirst, List.nil_append, String.toList_ofList]
    · rw [if_neg fun h => hfirst ((hempty hws).1 h), Text.unwords_append hfirst hnone]
      simp

/-- The words of the flags for compiling. -/
def compileWords (compile : String) : List (List Char) :=
  "-std=c++11".toList :: Text.words compile.toList

/-- The words of the flags for linking. -/
def linkWords (link libraries : String) : List (List Char) :=
  Text.words link.toList ++ Text.words libraries.toList

theorem areWords_standard : Text.AreWords ["-std=c++11".toList] := by
  have hword : Text.words "-std=c++11".toList = ["-std=c++11".toList] := by decide
  rw [← hword]
  exact Text.areWords_words _

theorem areWords_compileWords (compile : String) : Text.AreWords (compileWords compile) :=
  areWords_standard.append (Text.areWords_words _)

theorem areWords_linkWords (link libraries : String) : Text.AreWords (linkWords link libraries) :=
  (Text.areWords_words _).append (Text.areWords_words _)

theorem toList_compileFlags (compile : String) :
    (joinFlags standardFlag (Toolchain.normalise compile)).toList =
      Text.unwords (compileWords compile) := by
  have hstandard : standardFlag = String.ofList (Text.unwords ["-std=c++11".toList]) := by decide
  rw [hstandard, Toolchain.normalise_eq,
    toList_joinFlags areWords_standard (Text.areWords_words compile.toList), List.singleton_append,
    compileWords]

theorem toList_linkFlags (link libraries : String) :
    (joinFlags (Toolchain.normalise link) (Toolchain.normalise libraries)).toList =
      Text.unwords (linkWords link libraries) := by
  rw [Toolchain.normalise_eq, Toolchain.normalise_eq,
    toList_joinFlags (Text.areWords_words link.toList) (Text.areWords_words libraries.toList), linkWords]

theorem isMultiline_of_words {value : String} {ws : List (List Char)} (hws : Text.AreWords ws)
    (h : value.toList = Text.unwords ws) : Draft.isMultiline value = false := by
  rw [Draft.isMultiline_eq_false_iff, h]
  exact ⟨Text.notMem_unwords (by decide) (by decide) hws,
    Text.notMem_unwords (by decide) (by decide) hws⟩

end Assembly

namespace Request

variable {q : Request} {tree : FileTree} {r : Responder} {flags : ToolchainFlags}

/-- What the helper is asked and what it answers. -/
def dialogue (q : Request) (tree : FileTree) (r : Responder) : List (Command × Reply) :=
  match q.helper tree with
  | .error _ => []
  | .ok helper => Toolchain.dialogue r helper 0 tree [.compile, .link, .libraries]

theorem map_fst_dialogue (q : Request) (tree : FileTree) (r : Responder) :
    (q.dialogue tree r).map Prod.fst = q.commands tree r := by
  rw [dialogue, commands]
  cases q.helper tree with
  | error fault => rfl
  | ok helper => exact Toolchain.map_fst_dialogue r helper _ 0 tree

example : ((small "build.ninja").dialogue smallTree (.ofReplies [.ok "", .error (.launch "")])).map
    (fun step => step.1.arguments) = [["--cflags"], ["--ldflags"]] := by
  decide +kernel

/-- **Flags are the normalised outputs of the helper.** -/
theorem exists_dialogue_of_probed (h : (q.probed tree r).1 = .ok flags) :
    ∃ helper compile link libraries,
      q.dialogue tree r =
        [(⟨helper, ["--cflags"]⟩, .ok compile), (⟨helper, ["--ldflags"]⟩, .ok link),
         (⟨helper, ["--libs", "core", "object", "scalaropts"]⟩, .ok libraries)] ∧
      flags =
        ⟨Toolchain.normalise compile, Toolchain.normalise link, Toolchain.normalise libraries⟩ := by
  rw [probed] at h
  rw [dialogue]
  cases hhelper : q.helper tree with
  | error fault =>
    rw [hhelper] at h
    cases h
  | ok helper =>
    rw [hhelper] at h
    exact ⟨helper, Toolchain.exists_dialogue_of_probe (Prod.ext h rfl)⟩

theorem probed_ne_plan (fault : PlanError) : (q.probed tree r).1 ≠ .error (.plan fault) := by
  intro h
  rw [probed, helper, Toolchain.locate] at h
  cases hfound : q.search.find? tree Toolchain.candidates with
  | none =>
    rw [hfound] at h
    cases h
  | some helper =>
    rw [hfound] at h
    exact Toolchain.run_probe_ne_plan r helper fault tree h

/-- The helper's flags fit on one line each. -/
theorem isMultiline_of_probed (h : (q.probed tree r).1 = .ok flags) :
    Draft.isMultiline (Assembly.joinFlags Assembly.standardFlag flags.compile) = false ∧
      Draft.isMultiline (Assembly.joinFlags flags.link flags.libraries) = false := by
  obtain ⟨_, compile, link, libraries, -, rfl⟩ := exists_dialogue_of_probed h
  exact ⟨Assembly.isMultiline_of_words (Assembly.areWords_compileWords compile)
      (Assembly.toList_compileFlags compile),
    Assembly.isMultiline_of_words (Assembly.areWords_linkWords link libraries)
      (Assembly.toList_linkFlags link libraries)⟩

end Request

end BuildPlan
