import BuildPlan.Proofs.Plan.Checks
import Mathlib.Data.List.Basic

/-!
# The first fault of a manifest

A manifest is checked in three passes: over the modules for names that come again, over the generation
steps, and over the modules once more for sources. Each pass stops at the first fault, and a later pass
matters only if the earlier ones have found nothing.

* `repeated?_eq_some_iff`, `repeated?_eq_none_iff` — the first pass, with the names seen so far.
* `Manifest.GoodStep`, `Manifest.Supplied` — what the second pass asks of a step and the third of a module.
* `Manifest.FirstFault` — the first fault, one case for each kind in the order in which they count.
* `fault?_eq_some_iff` — the fault that is found is the first.
* **`validate_outcome`** — which manifests pass, and what is reported of the others.
-/

namespace BuildPlan

namespace Manifest

variable {m : Manifest} {tree : FileTree} {root : Path}

/-! ### Names that come again -/

/-- The name that is found is the first that has been seen or that comes again. -/
theorem repeated?_eq_some_iff {seen names : List String} {name : String} :
    repeated? seen names = some name ↔
      ∃ before after, names = before ++ name :: after ∧ before.Nodup ∧
        (∀ other ∈ before, other ∉ seen) ∧ (name ∈ seen ∨ name ∈ before) := by
  induction names generalizing seen with
  | nil => simp [repeated?]
  | cons first rest ih =>
    rw [repeated?]
    by_cases hfirst : first ∈ seen
    · rw [if_pos (List.contains_iff_mem.2 hfirst)]
      constructor
      · rintro ⟨⟩
        exact ⟨[], rest, rfl, List.nodup_nil, by simp, .inl hfirst⟩
      · rintro ⟨before, after, hsplit, -, hfresh, -⟩
        -- a name that has been seen stands before no other
        rcases List.cons_eq_append_iff.1 hsplit with ⟨-, heq⟩ | ⟨more, rfl, -⟩
        · cases heq
          rfl
        · exact absurd hfirst (hfresh first List.mem_cons_self)
    · rw [if_neg (mt List.contains_iff_mem.1 hfirst), ih]
      constructor
      · rintro ⟨before, after, rfl, hnodup, hfresh, hname⟩
        have hnew : first ∉ before := fun h => hfresh first h List.mem_cons_self
        refine ⟨first :: before, after, rfl, List.nodup_cons.2 ⟨hnew, hnodup⟩, ?_, ?_⟩
        · refine List.forall_mem_cons.2 ⟨hfirst, fun other hother hseen => ?_⟩
          exact hfresh other hother (List.mem_cons_of_mem first hseen)
        · rw [List.mem_cons] at hname ⊢
          rw [or_assoc, or_left_comm] at hname
          exact hname
      · rintro ⟨before, after, hsplit, hnodup, hfresh, hname⟩
        rcases List.cons_eq_append_iff.1 hsplit with ⟨rfl, heq⟩ | ⟨more, rfl, rfl⟩
        · cases heq
          exact absurd (hname.resolve_right List.not_mem_nil) hfirst
        · obtain ⟨hnew, hnodup⟩ := List.nodup_cons.1 hnodup
          obtain ⟨-, hfresh⟩ := List.forall_mem_cons.1 hfresh
          refine ⟨more, after, rfl, hnodup, fun other hother hseen => ?_, ?_⟩
          · rcases List.mem_cons.1 hseen with rfl | hseen
            · exact hnew hother
            · exact hfresh other hother hseen
          · rw [List.mem_cons] at hname ⊢
            rw [or_assoc, or_left_comm]
            exact hname

theorem repeated?_eq_none_iff {seen names : List String} :
    repeated? seen names = none ↔ names.Nodup ∧ ∀ name ∈ names, name ∉ seen := by
  induction names generalizing seen with
  | nil => simp [repeated?]
  | cons first rest ih =>
    rw [repeated?]
    by_cases hfirst : first ∈ seen
    · rw [if_pos (List.contains_iff_mem.2 hfirst)]
      simp [hfirst]
    · rw [if_neg (mt List.contains_iff_mem.1 hfirst), ih, List.nodup_cons, List.forall_mem_cons]
      simp only [List.mem_cons, not_or]
      constructor
      · rintro ⟨hnodup, hfresh⟩
        exact ⟨⟨fun h => (hfresh first h).1 rfl, hnodup⟩, hfirst, fun name h => (hfresh name h).2⟩
      · rintro ⟨⟨hnew, hnodup⟩, -, hfresh⟩
        exact ⟨hnodup, fun name h => ⟨fun heq => hnew (heq ▸ h), hfresh name h⟩⟩

/-! ### Steps and sources -/

/-- The step generates a listed module, from a template that is a file. -/
def GoodStep (m : Manifest) (tree : FileTree) (root : Path) (step : GenerationStep) : Prop :=
  step.module ∈ m.modules ∧ tree.isFile (root.join step.template) = true

/-- Some step generates the module, or its source is a file. -/
def Supplied (m : Manifest) (tree : FileTree) (root : Path) (module : String) : Prop :=
  (∃ step ∈ m.steps, step.module = module) ∨ tree.isFile (root.join (m.sourceFor module)) = true

theorem stepFault?_eq_some_iff {step : GenerationStep} {fault : PlanError} :
    m.stepFault? tree root step = some fault ↔
      (step.module ∉ m.modules ∧ fault = .unlistedGeneratedModule step.module) ∨
        (step.module ∈ m.modules ∧ tree.isFile (root.join step.template) = false ∧
          fault = .missingTemplate step.template) := by
  rw [stepFault?, ← List.contains_iff_mem, @eq_comm _ fault, @eq_comm _ fault]
  cases m.modules.contains step.module with
  | false => simp
  | true =>
    cases tree.isFile (root.join step.template) with
    | false => simp
    | true => simp

theorem sourceFault?_eq_some_iff {module : String} {fault : PlanError} :
    m.sourceFault? tree root module = some fault ↔
      (∀ step ∈ m.steps, step.module ≠ module) ∧
        tree.isFile (root.join (m.sourceFor module)) = false ∧
        fault = .missingSource module (m.sourceFor module) := by
  have hgenerated : (m.generatedBy? module).isSome = false ↔
      ∀ step ∈ m.steps, step.module ≠ module := by
    rw [generatedBy?, Option.isSome_eq_false_iff, Option.isNone_iff_eq_none, List.find?_eq_none]
    simp only [decide_eq_true_eq, ne_eq]
  rw [sourceFault?, ← hgenerated, @eq_comm _ fault]
  cases (m.generatedBy? module).isSome with
  | true => simp
  | false =>
    cases tree.isFile (root.join (m.sourceFor module)) with
    | false => simp
    | true => simp

/-! ### The first fault -/

/-- The first fault of a manifest. Names that come again count before faults of steps, in the order of
the steps, and these before missing sources. -/
inductive FirstFault (m : Manifest) (tree : FileTree) (root : Path) : PlanError → Prop
  /-- A module has the name of an earlier one, and is the first with a name that comes again. -/
  | repeated {before after : List String} {module : String}
      (split : m.modules = before ++ module :: after) (distinct : before.Nodup)
      (earlier : module ∈ before) : FirstFault m tree root (.duplicateModule module)
  /-- The module of a step is not listed. -/
  | unlisted {before after : List GenerationStep} {step : GenerationStep}
      (distinct : m.modules.Nodup) (split : m.steps = before ++ step :: after)
      (good : ∀ other ∈ before, m.GoodStep tree root other) (unlisted : step.module ∉ m.modules) :
      FirstFault m tree root (.unlistedGeneratedModule step.module)
  /-- The module of a step is listed, and its template is no file. -/
  | template {before after : List GenerationStep} {step : GenerationStep}
      (distinct : m.modules.Nodup) (split : m.steps = before ++ step :: after)
      (good : ∀ other ∈ before, m.GoodStep tree root other) (listed : step.module ∈ m.modules)
      (missing : tree.isFile (root.join step.template) = false) :
      FirstFault m tree root (.missingTemplate step.template)
  /-- No step generates a module, and its source is no file. -/
  | source {before after : List String} {module : String}
      (distinct : m.modules.Nodup) (good : ∀ step ∈ m.steps, m.GoodStep tree root step)
      (split : m.modules = before ++ module :: after)
      (supplied : ∀ other ∈ before, m.Supplied tree root other)
      (handwritten : ∀ step ∈ m.steps, step.module ≠ module)
      (missing : tree.isFile (root.join (m.sourceFor module)) = false) :
      FirstFault m tree root (.missingSource module (m.sourceFor module))

/-- **The fault that is found is the first.** -/
theorem fault?_eq_some_iff {fault : PlanError} :
    m.fault? tree root = some fault ↔ m.FirstFault tree root fault := by
  rw [fault?, Option.or_eq_some_iff, Option.or_eq_some_iff, Option.map_eq_some_iff,
    Option.map_eq_none_iff, List.findSome?_eq_none_iff, List.findSome?_eq_some_iff,
    List.findSome?_eq_some_iff]
  simp only [repeated?_eq_some_iff, repeated?_eq_none_iff, stepFault?_eq_none_iff,
    stepFault?_eq_some_iff, sourceFault?_eq_none_iff, sourceFault?_eq_some_iff, List.not_mem_nil,
    not_false_eq_true, implies_true, and_true, true_and, false_or]
  constructor
  · rintro (⟨module, ⟨before, after, hsplit, hdistinct, hearlier⟩, rfl⟩ |
      ⟨hdistinct, ⟨before, step, after, hsplit, hfault, hgood⟩ |
        ⟨hgood, before, module, after, hsplit, ⟨hhandwritten, hmissing, rfl⟩, hsupplied⟩⟩)
    · exact .repeated hsplit hdistinct hearlier
    · rcases hfault with ⟨hunlisted, rfl⟩ | ⟨hlisted, hmissing, rfl⟩
      · exact .unlisted hdistinct hsplit hgood hunlisted
      · exact .template hdistinct hsplit hgood hlisted hmissing
    · exact .source hdistinct hgood hsplit hsupplied hhandwritten hmissing
  · intro h
    cases h with
    | repeated hsplit hdistinct hearlier =>
      exact .inl ⟨_, ⟨_, _, hsplit, hdistinct, hearlier⟩, rfl⟩
    | unlisted hdistinct hsplit hgood hunlisted =>
      exact .inr ⟨hdistinct, .inl ⟨_, _, _, hsplit, .inl ⟨hunlisted, rfl⟩, hgood⟩⟩
    | template hdistinct hsplit hgood hlisted hmissing =>
      exact .inr ⟨hdistinct, .inl ⟨_, _, _, hsplit, .inr ⟨hlisted, hmissing, rfl⟩, hgood⟩⟩
    | source hdistinct hgood hsplit hsupplied hhandwritten hmissing =>
      exact .inr ⟨hdistinct, .inr ⟨hgood, _, _, _, hsplit, ⟨hhandwritten, hmissing, rfl⟩, hsupplied⟩⟩

theorem validate_eq_error_iff {fault : PlanError} :
    m.validate tree root = .error fault ↔ m.fault? tree root = some fault := by
  rw [validate]
  cases m.fault? tree root with
  | none => simp
  | some other => simp

/-- **Which manifests pass, and what is reported of the others.** A manifest passes if its modules have
different names, every step generates a listed module from a template that is a file, and every module
that no step generates has a source that is a file. Otherwise the first fault is reported. -/
theorem validate_outcome (m : Manifest) (tree : FileTree) (root : Path) :
    (m.validate tree root = .ok () ↔
      m.modules.Nodup ∧
      (∀ step ∈ m.steps,
        step.module ∈ m.modules ∧ tree.isFile (root.join step.template) = true) ∧
      ∀ module ∈ m.modules, (∀ step ∈ m.steps, step.module ≠ module) →
        tree.isFile (root.join (m.sourceFor module)) = true) ∧
    ∀ fault, m.validate tree root = .error fault ↔ m.FirstFault tree root fault := by
  refine ⟨?_, fun fault => validate_eq_error_iff.trans fault?_eq_some_iff⟩
  rw [validate_eq_ok_iff, repeated?_eq_none_iff]
  simp only [List.not_mem_nil, not_false_eq_true, implies_true, and_true]
  -- a module is supplied if it is generated or, supposing it is not, has its source
  refine and_congr_right fun _ => and_congr_right fun _ => forall₂_congr fun module _ => ?_
  rw [or_iff_not_imp_left]
  simp only [not_exists, not_and, ne_eq]

-- A name that comes again hides all else, and a missing template hides the faults of later steps.
example : (Manifest.mk ⟨"src"⟩ "cc" ["a", "b", "a"] [⟨⟨"t"⟩, "c"⟩] ⟨"app"⟩).validate {} ⟨"."⟩ =
    .error (.duplicateModule "a") := by decide
example : (Manifest.mk ⟨"src"⟩ "cc" ["a", "b"] [⟨⟨"t"⟩, "b"⟩, ⟨⟨"t"⟩, "c"⟩] ⟨"app"⟩).validate {} ⟨"."⟩ =
    .error (.missingTemplate ⟨"t"⟩) := by decide

end Manifest

end BuildPlan
