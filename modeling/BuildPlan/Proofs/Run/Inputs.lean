import BuildPlan.Proofs.Files.Landing
import BuildPlan.Proofs.Plan.Checks
import BuildPlan.Proofs.Run.Emission

/-!
# The build file and the inputs of the project

Before anything is written, the path of the build file is compared with the paths of the sources and
templates. The comparison looks at components only, while the file is written where the path leads.
For paths that lead down from the root the two agree, so a source or template is never written over.
They do not agree for paths that go up on the way: `src/../src/a.cc` leads to `src/a.cc`, has other
components, and is written over it.

* **`run_keeps_inputs`** — inputs spelled without steps up survive a build file spelled without them.
* `run_overwrites_input` — an input that does not survive a build file spelled with a step up.
-/

namespace BuildPlan

namespace Request

/-- **Writing the build file keeps every input.** If the build file is spelled as a relative path that
never goes up, and so is a source or a template, then after a successful run that source or template is
the file that it was before. It is compared with what the helper left of it; a helper that only answers
leaves it as it was before the run (`left_eq_of_leavesFiles`). -/
theorem run_keeps_inputs {q : Request} {tree : FileTree} {r : Responder} {w : Stager} {path : Path}
    (hroot : q.root = ⟨"."⟩) (hrun : (q.run tree r w).result = .ok path)
    (hbuild : q.invocation.buildFile.LeadsDown) {input : Path} (hinput : input ∈ q.manifest.inputs)
    (hdown : input.LeadsDown) {content : List UInt8} {mode : Nat}
    (hfile : (q.left tree r).find? (q.root.join input) = some (.file content mode)) :
    (q.run tree r w).tree.find? (q.root.join input) = some (.file content mode) := by
  obtain ⟨g, made, dest, hgraph, htree, hgrown, -, hdirectory, hresolve⟩ := exists_of_run_eq_ok hrun
  have hcheck := under_ne_of_graph hgraph hinput
  rw [target, hroot] at hresolve
  rw [hroot, Path.under_here, Path.under_here] at hcheck
  rw [hroot] at hfile ⊢
  have hhome : (q.run tree r w).tree.home = (q.left tree r).home := by
    rw [htree]
    exact hgrown.home_eq
  obtain ⟨loc, hloc, hat⟩ := FileTree.exists_of_find?_eq_some hfile
  have hapart : loc ≠ dest := FileTree.ne_of_dotless_ne hdown hbuild hcheck hhome hloc hresolve
  have hkept : (q.run tree r w).tree.at? loc = some (.file content mode) := by
    rw [htree, FileTree.at?_put_of_ne made _ hapart]
    exact hgrown.at?_eq_some hat
  -- The path of the input leads where it did, since no directory is gone.
  have hdirectories : ∀ other, (q.left tree r).at? other = some .directory →
      (q.run tree r w).tree.at? other = some .directory := by
    intro other hother
    rw [htree]
    exact FileTree.at?_put_eq_directory _ hdirectory (hgrown.at?_eq_some hother)
  have hfollow := FileTree.resolve_mono hdirectories hhome hloc (by rw [hkept]; rfl)
  rw [FileTree.find?, hfollow]
  exact hkept

theorem run_keeps_inputs_small :
    (Path.mk "out//./build.ninja").LeadsDown ∧ (Path.mk "src/main.cc").LeadsDown ∧
      ((small "out//./build.ninja").run smallTree (.ofReplies []) .usual).tree.find? ⟨"./src/main.cc"⟩ =
        some (.file [105, 110, 116] 0o600) := by
  have hrun : ((small "out//./build.ninja").run smallTree (.ofReplies []) .usual).result.toOption =
      some ⟨"out//./build.ninja"⟩ := by
    decide +kernel
  have hfile : ((small "out//./build.ninja").left smallTree (.ofReplies [])).find?
      ⟨"./src/main.cc"⟩ = some (.file [105, 110, 116] 0o600) := by
    decide +kernel
  have hinput : Path.mk "src/main.cc" ∈ (small "out//./build.ninja").manifest.inputs := by decide
  have hresult := eq_ok_of_toOption_eq_some hrun
  exact ⟨by decide, by decide, run_keeps_inputs rfl hresult (by decide) hinput (by decide) hfile⟩

/-! ### A build file spelled with a step up -/

/-- A build file starts with the letter `b`. -/
theorem head?_encode_text {q : Request} {tree : FileTree} {r : Responder} {g : Graph}
    (h : q.graph tree r = .ok g) : (Utf8.encode (BuildFile.text g)).head? = some 98 := by
  obtain ⟨flags, program, arguments, houtlined⟩ := graph_outlined h
  have hlines : ∃ rest, BuildFile.lines g =
      BuildFile.variableLine ⟨"builddir", q.settings.buildDirectory.text⟩ :: rest := by
    rw [BuildFile.lines, houtlined.globals_eq]
    exact ⟨_, rfl⟩
  obtain ⟨rest, hlines⟩ := hlines
  have hname : "builddir".toList = 'b' :: "uilddir".toList := by decide
  rw [Utf8.encode, BuildFile.text, String.toList_ofList, BuildFile.joined, hlines,
    BuildFile.variableLine, hname, List.flatMap_cons]
  rfl

/-- An input is written over by a build file that is spelled with a step up. -/
theorem run_overwrites_input :
    (small "src/../src/main.cc").root = ⟨"."⟩ ∧
      (small "src/../src/main.cc").invocation.buildFile.isAbsolute = false ∧
      Path.mk "src/main.cc" ∈ (small "src/../src/main.cc").manifest.inputs ∧
      smallTree.find? ⟨"./src/main.cc"⟩ = some (.file [105, 110, 116] 0o600) ∧
      ((small "src/../src/main.cc").run smallTree (.ofReplies []) .usual).result.toOption =
        some ⟨"src/../src/main.cc"⟩ ∧
      ∃ content mode, content ≠ [105, 110, 116] ∧
        ((small "src/../src/main.cc").run smallTree (.ofReplies []) .usual).tree.find? ⟨"./src/main.cc"⟩ =
          some (.file content mode) := by
  have hfacts : ((small "src/../src/main.cc").run smallTree (.ofReplies []) .usual).result.toOption =
        some ⟨"src/../src/main.cc"⟩ ∧
      (((small "src/../src/main.cc").run smallTree (.ofReplies []) .usual).tree.resolve
        (small "src/../src/main.cc").target).toOption = some ["main.cc", "src"] ∧
      (((small "src/../src/main.cc").run smallTree (.ofReplies []) .usual).tree.resolve
        ⟨"./src/main.cc"⟩).toOption = some ["main.cc", "src"] := by
    decide +kernel
  obtain ⟨hresult, htarget, hinput⟩ := hfacts
  refine ⟨rfl, by decide, by decide, by decide, hresult, ?_⟩
  obtain ⟨g, made, dest, hgraph, htree, -, hne, -, hdest⟩ :=
    exists_of_run_eq_ok (eq_ok_of_toOption_eq_some hresult)
  rw [hdest] at htarget
  cases htarget
  refine ⟨Utf8.encode (BuildFile.text g), FileTree.writtenMode, ?_, ?_⟩
  · intro heq
    have hhead := head?_encode_text hgraph
    rw [heq] at hhead
    cases hhead
  · have hfound := eq_ok_of_toOption_eq_some hinput
    rw [FileTree.find?, hfound, htree]
    exact FileTree.at?_put_self made _ hne

end Request

end BuildPlan
