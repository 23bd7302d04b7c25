import BuildPlan.Proofs.Plan.Replay
import BuildPlan.Proofs.Run.Verdicts

/-!
# Flags on the way into the build file

The helper's outputs become two variables of the build file. After they have been normalised and put together
they are checked for line breaks and escaped. The words of the outputs come through all of this as they are
and in order.

* `Request.not_multiline` — whatever the helper says, neither variable is refused as having many lines.
* **`flags_of_generate`** — the values of the two variables.
-/

namespace BuildPlan

namespace Request

variable {q : Request} {tree : FileTree} {r : Responder} {flags : ToolchainFlags}

/-- **The two variables with flags are never refused as having many lines**, whatever the helper
says. -/
theorem not_multiline {name : String} (hname : name ∈ ["cflags", "ldflags"]) :
    q.generate tree r ≠ .error (.plan (.multilineVariable name)) := by
  intro h
  rw [generate, map_eq_error_iff] at h
  cases planFault_of_graph h with
  | manifest first => cases first
  | multiline used lines => rcases List.mem_pair.1 hname with rfl | rfl <;> simp [texts] at used

theorem Outlined.valueOf?_cflags {g : Graph} {program arguments : String}
    (h : q.Outlined tree r g flags program arguments) :
    BuildFile.valueOf? (BuildFile.text g) "cflags" =
      some (Assembly.joinFlags Assembly.standardFlag flags.compile) :=
  h.valueOf?_text (v := ⟨"cflags", Assembly.joinFlags Assembly.standardFlag flags.compile⟩)
    (by rw [h.globals_eq]; simp)

theorem Outlined.valueOf?_ldflags {g : Graph} {program arguments : String}
    (h : q.Outlined tree r g flags program arguments) :
    BuildFile.valueOf? (BuildFile.text g) "ldflags" =
      some (Assembly.joinFlags flags.link flags.libraries) :=
  h.valueOf?_text (v := ⟨"ldflags", Assembly.joinFlags flags.link flags.libraries⟩)
    (by rw [h.globals_eq]; simp)

/-- **The words of the helper's outputs come through to the build file.** If there is a text, the helper
has answered three questions, and the values of the two variables with flags are taken from the text with
their escapes undone. They are the language standard and the words of the first output, and the words of
the second output and then of the third, with single spaces between the words and none around them. Cut
at white space, they fall into those words again. And neither variable is ever refused as having many
lines. -/
theorem flags_of_generate (q : Request) (tree : FileTree) (r : Responder) :
    (∀ text, q.generate tree r = .ok text →
      ∃ helper compile link libraries cflags ldflags,
        q.dialogue tree r =
          [(⟨helper, ["--cflags"]⟩, .ok compile), (⟨helper, ["--ldflags"]⟩, .ok link),
           (⟨helper, ["--libs", "core", "object", "scalaropts"]⟩, .ok libraries)] ∧
        BuildFile.valueOf? text "cflags" = some cflags ∧
        cflags.toList = Text.unwords ("-std=c++11".toList :: Text.words compile.toList) ∧
        Text.words cflags.toList = "-std=c++11".toList :: Text.words compile.toList ∧
        BuildFile.valueOf? text "ldflags" = some ldflags ∧
        ldflags.toList = Text.unwords (Text.words link.toList ++ Text.words libraries.toList) ∧
        Text.words ldflags.toList = Text.words link.toList ++ Text.words libraries.toList) ∧
    ∀ name ∈ ["cflags", "ldflags"], q.generate tree r ≠ .error (.plan (.multilineVariable name)) := by
  refine ⟨?_, fun _ hname => not_multiline hname⟩
  intro text h
  obtain ⟨g, hgraph, rfl⟩ := exists_of_map_eq_ok h
  obtain ⟨flags, program, arguments, houtlined⟩ := graph_outlined hgraph
  obtain ⟨helper, compile, link, libraries, hdialogue, rfl⟩ :=
    exists_dialogue_of_probed houtlined.probed_eq
  have hcompile := Assembly.toList_compileFlags compile
  have hlink := Assembly.toList_linkFlags link libraries
  refine ⟨helper, compile, link, libraries, _, _, hdialogue, houtlined.valueOf?_cflags, hcompile, ?_,
    houtlined.valueOf?_ldflags, hlink, ?_⟩
  · rw [hcompile]
    exact Text.words_unwords (Assembly.areWords_compileWords compile)
  · rw [hlink]
    exact Text.words_unwords (Assembly.areWords_linkWords link libraries)

/-- A helper whose outputs are spread over lines and hold a sign that the build file escapes. -/
def spread : Responder := .ofReplies [.ok " -I$x\n'-DY'\r\n", .ok "", .ok "-la\u2003-lb"]

theorem flags_of_generate_spread :
    ∃ text, (small "build.ninja").generate smallTree spread = .ok text ∧
      ∃ cflags ldflags,
        BuildFile.valueOf? text "cflags" = some cflags ∧
        cflags.toList = "-std=c++11 -I$x '-DY'".toList ∧
        BuildFile.valueOf? text "ldflags" = some ldflags ∧ ldflags.toList = "-la -lb".toList := by
  have hsome : ((small "build.ninja").generate smallTree spread).toOption.isSome = true := by
    decide +kernel
  have hreplies : ((small "build.ninja").dialogue smallTree spread).map (fun step => step.2.toOption) =
      [some " -I$x\n'-DY'\r\n", some "", some "-la\u2003-lb"] := by
    decide +kernel
  obtain ⟨text, hgenerate⟩ := exists_of_isSome_toOption hsome
  obtain ⟨hflags, -⟩ := flags_of_generate (small "build.ninja") smallTree spread
  obtain ⟨helper, compile, link, libraries, cflags, ldflags, hdialogue, hcflags, hcompile, -, hldflags,
    hlink, -⟩ := hflags text hgenerate
  rw [hdialogue] at hreplies
  obtain ⟨rfl, rfl, rfl⟩ :
      compile = " -I$x\n'-DY'\r\n" ∧ link = "" ∧ libraries = "-la\u2003-lb" := by
    simpa [Except.toOption] using hreplies
  refine ⟨text, hgenerate, cflags, ldflags, hcflags, hcompile.trans ?_, hldflags, hlink.trans ?_⟩
  · decide +kernel
  · decide +kernel

end Request

end BuildPlan
