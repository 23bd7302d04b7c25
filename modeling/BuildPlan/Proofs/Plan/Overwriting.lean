import BuildPlan.Plan.Manifest
import BuildPlan.Proofs.Path.Joining

/-!
# When a build file is refused

A build file may not be written over a source or a template. The check takes the root off where it
stands in front of a path and compares what is left. So it finds paths that lead to the same place
however they are given: the build file may be relative and the sources absolute, or the other way round.

* `Manifest.LandsOn` — the build file and an input lead to the same place from the root.
* `Manifest.FirstOverwritten` — the first input that the build file lands on, sources before templates.
* `checkBuildFile_eq_error_iff` — the check fails exactly with that input.
* **`checkBuildFile_outcome`** — it fails exactly if there is a source or a template like that.

Dots do not count, and steps up are not followed.
-/

namespace BuildPlan

namespace Manifest

variable {m : Manifest} {root buildFile : Path}

/-- The build file and the input lead to the same place from the root. -/
def LandsOn (root buildFile input : Path) : Prop :=
  (root.join buildFile).dotless = (root.join input).dotless

/-- The first input that the build file lands on: the sources of the modules come in order, and then the
templates of the steps in order. -/
def FirstOverwritten (m : Manifest) (root buildFile input : Path) : Prop :=
  ∃ before after,
    m.modules.map m.sourceFor ++ m.steps.map GenerationStep.template = before ++ input :: after ∧
    LandsOn root buildFile input ∧ ∀ other ∈ before, ¬ LandsOn root buildFile other

/-- What is compared is where the paths lead. -/
theorem under_eq_iff_landsOn (hroot : root.Rooted) {input : Path} :
    root.under input = root.under buildFile ↔ LandsOn root buildFile input := by
  rw [Path.under_eq_iff hroot, LandsOn, eq_comm]

theorem find?_inputs_eq_some_iff (hroot : root.Rooted) {input : Path} :
    m.inputs.find? (fun input => root.under input = root.under buildFile) = some input ↔
      m.FirstOverwritten root buildFile input := by
  rw [List.find?_eq_some_iff_append]
  simp only [Bool.not_eq_true', decide_eq_true_eq, decide_eq_false_iff_not,
    under_eq_iff_landsOn hroot]
  constructor
  · rintro ⟨hlands, before, after, hsplit, hbefore⟩
    exact ⟨before, after, hsplit, hlands, hbefore⟩
  · rintro ⟨before, after, hsplit, hlands, hbefore⟩
    exact ⟨hlands, before, after, hsplit, hbefore⟩

/-- **The check fails with the first input that the build file lands on**, and with nothing else. -/
theorem checkBuildFile_eq_error_iff (hroot : root.Rooted) {fault : PlanError} :
    m.checkBuildFile root buildFile = .error fault ↔
      ∃ input, m.FirstOverwritten root buildFile input ∧ fault = .buildFileOverwritesInput input := by
  simp only [← find?_inputs_eq_some_iff hroot]
  rw [checkBuildFile]
  cases m.inputs.find? (fun input => root.under input = root.under buildFile) with
  | none => simp
  | some input => simp [eq_comm]

/-- Some input is the first exactly if there is one at all. -/
theorem exists_firstOverwritten_iff (hroot : root.Rooted) :
    (∃ input, m.FirstOverwritten root buildFile input) ↔
      (∃ module ∈ m.modules, LandsOn root buildFile (m.sourceFor module)) ∨
        ∃ step ∈ m.steps, LandsOn root buildFile step.template := by
  have hsome : (∃ input, m.FirstOverwritten root buildFile input) ↔
      ∃ input ∈ m.inputs, LandsOn root buildFile input := by
    simp only [← find?_inputs_eq_some_iff hroot, ← under_eq_iff_landsOn hroot]
    rw [← Option.isSome_iff_exists, List.find?_isSome]
    simp only [decide_eq_true_eq]
  rw [hsome, inputs]
  simp only [List.mem_append, List.mem_map, or_and_right, exists_or]
  simp

/-- **A build file is refused exactly if it would be written over a source or a template**, and the error
names the first of them, sources before templates. The root is the current directory or absolute; the
paths may be relative or absolute, each as it likes. -/
theorem checkBuildFile_outcome (m : Manifest) {root : Path} (hroot : root.Rooted) (buildFile : Path) :
    ((∃ fault, m.checkBuildFile root buildFile = .error fault) ↔
      (∃ module ∈ m.modules, LandsOn root buildFile (m.sourceFor module)) ∨
        ∃ step ∈ m.steps, LandsOn root buildFile step.template) ∧
    ∀ fault, m.checkBuildFile root buildFile = .error fault ↔
      ∃ input, m.FirstOverwritten root buildFile input ∧ fault = .buildFileOverwritesInput input := by
  refine ⟨?_, fun fault => checkBuildFile_eq_error_iff hroot⟩
  rw [← exists_firstOverwritten_iff hroot]
  constructor
  · rintro ⟨fault, hfault⟩
    obtain ⟨input, hinput, -⟩ := (checkBuildFile_eq_error_iff hroot).1 hfault
    exact ⟨input, hinput⟩
  · rintro ⟨input, hinput⟩
    exact ⟨_, (checkBuildFile_eq_error_iff hroot).2 ⟨input, hinput, rfl⟩⟩

/-- A project whose sources are given as absolute paths. -/
def absolute : Manifest where
  sourceDirectory := ⟨"/work/./neatc/src"⟩
  sourceExtension := "cc"
  modules := ["main", "lexer", "util"]
  steps := [⟨⟨"/work/neatc/src/lexer.cc"⟩, "lexer"⟩]
  binary := ⟨"neatc"⟩

/-- A relative build file lands on an absolute source, and on a template that is the same place. -/
theorem checkBuildFile_outcome_absolute :
    (Path.mk "/work//neatc/").Rooted ∧
      absolute.checkBuildFile ⟨"/work//neatc/"⟩ ⟨"./src//lexer.cc"⟩ =
        .error (.buildFileOverwritesInput ⟨"/work/./neatc/src/lexer.cc"⟩) := by
  have hroot : (Path.mk "/work//neatc/").Rooted := .inr (by decide)
  refine ⟨hroot, ((checkBuildFile_outcome absolute hroot ⟨"./src//lexer.cc"⟩).2 _).2 ⟨_, ?_, rfl⟩⟩
  refine ⟨[⟨"/work/./neatc/src/main.cc"⟩],
    [⟨"/work/./neatc/src/util.cc"⟩, ⟨"/work/neatc/src/lexer.cc"⟩], by decide, ?_, ?_⟩
  · show Path.dotless _ = Path.dotless _
    decide
  · intro other hother
    rw [List.mem_singleton.1 hother]
    show ¬ Path.dotless _ = Path.dotless _
    decide

end Manifest

end BuildPlan
