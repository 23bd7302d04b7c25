import BuildPlan.Proofs.Files.Rewriting
import BuildPlan.Proofs.Plan.Checks
import BuildPlan.Proofs.Run.Emission

/-!
# Running twice is running once

A run changes the files that it depends on: the build file is new, directories have been made for it,
and it may even have replaced a source. A second run starts from there. Each of its stages sees files
that the first run did not see, and still does what it did before:

* the helper gives the same flags, since its replies depend on the commands alone (`probe_steady`);
* the checks of the manifest pass again, since files stay files (`check_again`), so that there is the
  same graph (`graph_again`);
* the build file can be written again, where it was written before (`FileTree.replaceFile_again`).

**`run_again`** puts this together.
-/

namespace BuildPlan

namespace Responder

/-- Equal commands get equal replies, whatever the files are and however many commands came before. -/
def AnswersAlike (r : Responder) : Prop :=
  ∀ tree tree' before before' c, (r.answer tree before c).2 = (r.answer tree' before' c).2

end Responder

namespace Toolchain

/-- A step of asking has the same result whatever the files are. -/
def Steady {α : Type} (x : Asking α) : Prop := ∀ tree tree', (x.run tree).1 = (x.run tree').1

theorem Steady.bind {α β : Type} {x : Asking α} {f : α → Asking β} (hx : Steady x)
    (hf : ∀ a, Steady (f a)) : Steady (x >>= f) := by
  intro tree tree'
  rw [run_bind, run_bind, hx tree tree']
  cases (x.run tree').1 with
  | ok a => exact hf a _ _
  | error fault => rfl

theorem ask_steady {r : Responder} (hr : r.AnswersAlike) (helper : Path) (before : Nat)
    (question : Query) : Steady (ask r helper before question) := by
  intro tree tree'
  rw [run_ask, run_ask, hr tree tree' before before]

theorem probe_steady {r : Responder} (hr : r.AnswersAlike) (helper : Path) :
    Steady (probe r helper) := by
  refine (ask_steady hr helper 0 .compile).bind fun _ => ?_
  refine (ask_steady hr helper 1 .link).bind fun _ => ?_
  exact (ask_steady hr helper 2 .libraries).bind fun _ _ _ => rfl

end Toolchain

namespace Request

variable {q : Request} {tree after : FileTree} {r : Responder} {w : Stager} {g : Graph}
  {path : Path}

/-- The flags are the same wherever the same helper is found. -/
theorem probed_again (hr : r.AnswersAlike) (hhelper : q.helper after = q.helper tree) :
    (q.probed after r).1 = (q.probed tree r).1 := by
  rw [probed, probed, hhelper]
  cases q.helper tree with
  | error fault => rfl
  | ok helper => exact Toolchain.probe_steady hr helper after tree

/-- The checks that have passed on some files pass where these are kept. -/
theorem check_again (hkept : tree.Kept after) (h : q.check tree = .ok ()) : q.check after = .ok () := by
  obtain ⟨_, hvalidate, hbuildFile⟩ := exists_of_bind_eq_ok h
  have hvalidate' : q.manifest.validate after q.root = .ok () :=
    Manifest.validate_mono (fun _ => FileTree.isFile_mono hkept) hvalidate
  rw [check, hvalidate']
  exact hbuildFile

/-- The graph is the same one where the same helper is found and the files are kept. -/
theorem graph_again (hr : r.AnswersAlike) (hhelper : q.helper after = q.helper tree)
    (hkept : (q.left tree r).Kept (q.left after r)) (h : q.graph tree r = .ok g) :
    q.graph after r = .ok g := by
  obtain ⟨flags, hflags, h⟩ := exists_of_bind_eq_ok h
  obtain ⟨_, hcheck, hdrafted⟩ := exists_of_bind_eq_ok (eq_ok_of_mapError_eq_ok h)
  have hcheck' : q.check (q.probed after r).2 = .ok () := check_again hkept hcheck
  rw [graph, probed_again hr hhelper, hflags]
  show (q.check (q.probed after r).2 >>= fun _ => q.drafted flags).mapError RunError.plan = .ok g
  rw [hcheck']
  show (q.drafted flags).mapError RunError.plan = .ok g
  rw [hdrafted]
  rfl

/-- A run that succeeds has a graph and has replaced the build file. -/
theorem replaceFile_of_run (h : (q.run tree r w).result = .ok path) :
    path = q.invocation.buildFile ∧ ∃ g, q.graph tree r = .ok g ∧
      (q.left tree r).replaceFile w q.target (Utf8.encode (BuildFile.text g)) =
        ((q.run tree r w).tree, none) := by
  cases hgraph : q.graph tree r with
  | error fault =>
    rw [(run_of_error hgraph).1] at h
    cases h
  | ok g =>
    obtain ⟨hresult, htree⟩ := run_of_ok hgraph
    obtain ⟨hafter, hemitted⟩ := emit_eq q (q.left tree r) w g
    rw [hresult, hemitted] at h
    rw [htree, hafter]
    split at h
    · cases h
    · rename_i hnone
      cases h
      exact ⟨rfl, g, rfl, Prod.ext rfl hnone⟩

/-- A run with a graph that can replace the build file succeeds. -/
theorem run_of_replaceFile (hgraph : q.graph tree r = .ok g)
    (h : (q.left tree r).replaceFile w q.target (Utf8.encode (BuildFile.text g)) = (after, none)) :
    (q.run tree r w).result = .ok q.invocation.buildFile ∧ (q.run tree r w).tree = after := by
  obtain ⟨hresult, htree⟩ := run_of_ok hgraph
  obtain ⟨hafter, hemitted⟩ := emit_eq q (q.left tree r) w g
  rw [hresult, htree, hafter, hemitted, h]
  exact ⟨rfl, rfl⟩

/-- What comes of a second run, on the files that the first has left. -/
def rerun (q : Request) (tree : FileTree) (r : Responder) (w : Stager) : Outcome :=
  q.run (q.run tree r w).tree r w

/-- **Running a second time changes nothing.** Suppose a run has succeeded with a helper that answers
equal commands alike. If the same helper is found afterwards, and asking it again leaves the files as
they are, then the second run succeeds as well, with the same path. It has the same text, puts it in
the same place with the permission bits 644, and leaves every place of the tree as the first run has
left it. A helper that only answers leaves the files as they are (`left_eq_of_leavesFiles`). -/
theorem run_again (hr : r.AnswersAlike) (hrun : (q.run tree r w).result = .ok path)
    (hhelper : q.helper (q.run tree r w).tree = q.helper tree)
    (hleft : q.left (q.run tree r w).tree r = (q.run tree r w).tree) :
    (q.rerun tree r w).result = .ok path ∧
      ∃ text dest, q.generate tree r = .ok text ∧ q.generate (q.run tree r w).tree r = .ok text ∧
        (q.run tree r w).tree.resolve q.target = .ok dest ∧
        (q.rerun tree r w).tree.resolve q.target = .ok dest ∧
        (q.rerun tree r w).tree.at? dest = some (.file (Utf8.encode text) 0o644) ∧
        ∀ loc, (q.rerun tree r w).tree.at? loc = (q.run tree r w).tree.at? loc := by
  obtain ⟨rfl, g, hgraph, hreplace⟩ := replaceFile_of_run hrun
  obtain ⟨dest, again, hresolve, hfile, hreplace', hhome, hsame⟩ :=
    FileTree.replaceFile_same hreplace
  have hkept := FileTree.replaceFile_kept hreplace
  have hgraph' : q.graph (q.run tree r w).tree r = .ok g := by
    refine graph_again hr hhelper ?_ hgraph
    rw [hleft]
    exact hkept
  -- The second run starts from what the first has left, and so does its last stage.
  rw [← hleft] at hreplace'
  obtain ⟨hresult, htree⟩ := run_of_replaceFile hgraph' hreplace'
  rw [rerun, htree]
  refine ⟨hresult, BuildFile.text g, dest, ?_, ?_, hresolve, ?_, ?_, hsame⟩
  · rw [generate, hgraph]
    rfl
  · rw [generate, hgraph']
    rfl
  · refine FileTree.resolve_mono ?_ hhome hresolve ?_
    · intro loc hloc
      rw [hsame, hloc]
    · rw [hsame, hfile]
      rfl
  · rw [hsame, hfile]
    rfl

/-- A helper that answers a command with its own arguments. -/
def echoing : Responder where
  answer tree _ c := (tree, .ok (" ".intercalate c.arguments))
  announces := true

/-- A project whose build file replaces a source and needs a new directory on its way. -/
def intrusive : Request := small "new/../src/main.cc"

theorem run_again_intrusive :
    echoing.AnswersAlike ∧ (intrusive.run smallTree echoing .usual).result = .ok ⟨"new/../src/main.cc"⟩ ∧
      intrusive.helper (intrusive.run smallTree echoing .usual).tree = intrusive.helper smallTree ∧
      intrusive.left (intrusive.run smallTree echoing .usual).tree echoing =
        (intrusive.run smallTree echoing .usual).tree ∧
      (intrusive.rerun smallTree echoing .usual).result = .ok ⟨"new/../src/main.cc"⟩ ∧
      ∀ loc, (intrusive.rerun smallTree echoing .usual).tree.at? loc =
        (intrusive.run smallTree echoing .usual).tree.at? loc := by
  have hfacts : (intrusive.run smallTree echoing .usual).result.toOption = some ⟨"new/../src/main.cc"⟩ ∧
      (intrusive.helper (intrusive.run smallTree echoing .usual).tree).toOption =
        some ⟨"/bin/llvm-config"⟩ ∧
      (intrusive.helper smallTree).toOption = some ⟨"/bin/llvm-config"⟩ := by
    decide +kernel
  obtain ⟨hresult, hafter, hbefore⟩ := hfacts
  have hechoing : echoing.AnswersAlike := fun _ _ _ _ _ => rfl
  have hrun := eq_ok_of_toOption_eq_some hresult
  have hhelper : intrusive.helper (intrusive.run smallTree echoing .usual).tree =
      intrusive.helper smallTree := by
    rw [eq_ok_of_toOption_eq_some hafter, eq_ok_of_toOption_eq_some hbefore]
  have hanswers : echoing.LeavesFiles := fun _ _ _ => rfl
  have hleft := left_eq_of_leavesFiles hanswers intrusive (intrusive.run smallTree echoing .usual).tree
  obtain ⟨hagain, -, -, -, -, -, -, -, hall⟩ := run_again hechoing hrun hhelper hleft
  exact ⟨hechoing, hrun, hhelper, hleft, hagain, hall⟩

end Request

end BuildPlan
