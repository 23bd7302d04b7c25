import BuildPlan.Proofs.Files.Replacing
import BuildPlan.Proofs.Plan.Outline

/-!
# A run writes one file or none

A run goes through many stages, and each of them can fail. Only the last one writes, and each of its
steps can be refused. So a run that fails before has not touched the files, a run that fails to write has
at most made directories, and a run that succeeds has replaced exactly the file that it was asked to
write.

* `Request.left` — the files as the helper leaves them, which is where everything here starts from;
  `left_eq_of_leavesFiles` says that a helper that only answers leaves them as they were.
* `Request.run_cases` — the three ways in which a run ends; `exists_of_run_eq_ok` is the last of them.
* **`run_all_or_nothing`** — what this means for regular files.
-/

namespace BuildPlan

/-! ### Helpers that only answer -/

namespace Toolchain

theorem run_ask (r : Responder) (helper : Path) (before : Nat) (question : Query) (tree : FileTree) :
    (ask r helper before question).run tree =
      (((r.answer tree before (question.command helper)).2.map normalise).mapError
          (RunError.queryFailed (question.command helper).display),
        (r.answer tree before (question.command helper)).1) := by
  have hset : ∀ after, (set after : Asking PUnit).run tree = (.ok ⟨⟩, after) := fun _ => rfl
  rw [ask, run_get_bind, run_bind_of_ok (hset _)]
  cases (r.answer tree before (question.command helper)).2 with
  | ok answer => rfl
  | error failure => rfl

theorem leaves_bind {α β : Type} {x : Asking α} {f : α → Asking β} {tree : FileTree}
    (hx : (x.run tree).2 = tree) (hf : ∀ a, ((f a).run tree).2 = tree) :
    ((x >>= f).run tree).2 = tree := by
  rw [run_bind, hx]
  cases (x.run tree).1 with
  | ok a => exact hf a
  | error fault => rfl

theorem leaves_probe {r : Responder} (hr : r.LeavesFiles) (helper : Path) (tree : FileTree) :
    ((probe r helper).run tree).2 = tree := by
  have hask : ∀ before question, ((ask r helper before question).run tree).2 = tree := by
    intro before question
    rw [run_ask]
    exact hr tree before (question.command helper)
  exact leaves_bind (hask 0 .compile) fun _ => leaves_bind (hask 1 .link) fun _ =>
    leaves_bind (hask 2 .libraries) fun _ => rfl

end Toolchain

namespace Request

/-- The files as the helper leaves them. -/
def left (q : Request) (tree : FileTree) (r : Responder) : FileTree := (q.probed tree r).2

/-- A helper that only answers leaves the files as they were. -/
theorem left_eq_of_leavesFiles {r : Responder} (hr : r.LeavesFiles) (q : Request) (tree : FileTree) :
    q.left tree r = tree := by
  rw [left, probed]
  cases q.helper tree with
  | error fault => rfl
  | ok helper => exact Toolchain.leaves_probe hr helper tree

/-! ### How runs end -/

/-- The build file as it is written. -/
def written (g : Graph) : Entry := .file (Utf8.encode (BuildFile.text g)) FileTree.writtenMode

variable {q : Request} {tree : FileTree} {r : Responder} {w : Stager} {g : Graph}

/-- Without a graph nothing is written. -/
theorem run_of_error {fault : RunError} (h : q.graph tree r = .error fault) :
    (q.run tree r w).result = .error fault ∧ (q.run tree r w).tree = q.left tree r := by
  simp only [run, h, left, and_self]

/-- With a graph, what comes of the run is what comes of writing the build file. -/
theorem run_of_ok (h : q.graph tree r = .ok g) :
    (q.run tree r w).result = (q.emit (q.left tree r) w g).result ∧
      (q.run tree r w).tree = (q.emit (q.left tree r) w g).tree := by
  simp only [run, h, left, and_self]

/-- What comes of writing the build file is decided by what comes of replacing it. -/
theorem emit_eq (q : Request) (tree : FileTree) (w : Stager) (g : Graph) :
    (q.emit tree w g).tree = (tree.replaceFile w q.target (Utf8.encode (BuildFile.text g))).1 ∧
      (q.emit tree w g).result =
        match (tree.replaceFile w q.target (Utf8.encode (BuildFile.text g))).2 with
        | some obstacle => .error (.emissionFailed q.target obstacle.message)
        | none => .ok q.invocation.buildFile := by
  unfold emit
  cases tree.replaceFile w q.target (Utf8.encode (BuildFile.text g)) with
  | mk after reply =>
    cases reply with
    | none => exact ⟨rfl, rfl⟩
    | some obstacle => exact ⟨rfl, rfl⟩

/-- **A run ends in one of three ways**: there is no graph, and the files are left alone; or the build
file cannot be written, and at most directories are made; or it is written. -/
theorem run_cases (q : Request) (tree : FileTree) (r : Responder) (w : Stager) :
    (∃ fault, q.graph tree r = .error fault ∧ (q.run tree r w).result = .error fault ∧
        (q.run tree r w).tree = q.left tree r) ∨
      (∃ g message, q.graph tree r = .ok g ∧
        (q.run tree r w).result = .error (.emissionFailed q.target message) ∧
        FileTree.Grown (q.left tree r) (q.run tree r w).tree) ∨
      ∃ g made dest, q.graph tree r = .ok g ∧ (q.run tree r w).result = .ok q.invocation.buildFile ∧
        (q.run tree r w).tree = made.put dest (written g) ∧ FileTree.Grown (q.left tree r) made ∧
        dest ≠ [] ∧ made.at? dest ≠ some .directory ∧
        (q.run tree r w).tree.resolve q.target = .ok dest := by
  cases hgraph : q.graph tree r with
  | error fault =>
    obtain ⟨hresult, htree⟩ := run_of_error hgraph
    exact .inl ⟨fault, rfl, hresult, htree⟩
  | ok g =>
    refine .inr ?_
    obtain ⟨hresult, htree⟩ := run_of_ok hgraph
    obtain ⟨hafter, hemitted⟩ := emit_eq q (q.left tree r) w g
    rw [hresult, htree, hafter, hemitted]
    rcases FileTree.replaceFile_cases (q.left tree r) w q.target (Utf8.encode (BuildFile.text g)) with
      ⟨after, obstacle, hreplace, hgrown⟩ | ⟨made, dest, hreplace, hgrown, hne, hfile, hresolve⟩
    · rw [hreplace]
      exact .inl ⟨g, obstacle.message, rfl, rfl, hgrown⟩
    · rw [hreplace]
      exact .inr ⟨g, made, dest, rfl, rfl, rfl, hgrown, hne, hfile, hresolve⟩

/-- A run that succeeds ends in the last of these ways. -/
theorem exists_of_run_eq_ok {path : Path} (h : (q.run tree r w).result = .ok path) :
    ∃ g made dest, q.graph tree r = .ok g ∧ (q.run tree r w).tree = made.put dest (written g) ∧
      FileTree.Grown (q.left tree r) made ∧ dest ≠ [] ∧ made.at? dest ≠ some .directory ∧
      (q.run tree r w).tree.resolve q.target = .ok dest := by
  rcases run_cases q tree r w with ⟨fault, -, hresult, -⟩ | ⟨g, message, -, hresult, -⟩ |
    ⟨g, made, dest, hgraph, -, hrest⟩
  · rw [hresult] at h
    cases h
  · rw [hresult] at h
    cases h
  · exact ⟨g, made, dest, hgraph, hrest⟩

/-- **A run writes one file or none**, whatever step of writing is refused. All is said about the files as
the helper leaves them, which are the files before the run if the helper only answers. If the run fails,
the regular files are the same ones afterwards, with the same bytes and permission bits, and all
directories are still there; and if it does not fail in writing, nothing has changed at all. If it
succeeds, the path of the build file leads to a regular file with the generated text and the permission
bits 644, and all other regular files are the same ones. -/
theorem run_all_or_nothing (q : Request) (tree : FileTree) (r : Responder) (w : Stager) :
    (r.LeavesFiles → q.left tree r = tree) ∧
    (∀ fault, (q.run tree r w).result = .error fault →
      FileTree.Grown (q.left tree r) (q.run tree r w).tree ∧
      ((∀ path message, fault ≠ .emissionFailed path message) →
        (q.run tree r w).tree = q.left tree r)) ∧
    ∀ path, (q.run tree r w).result = .ok path →
      ∃ text dest, q.generate tree r = .ok text ∧
        (q.run tree r w).tree.resolve q.target = .ok dest ∧
        (q.run tree r w).tree.at? dest = some (.file (Utf8.encode text) 0o644) ∧
        ∀ other, other ≠ dest → ∀ content mode,
          (q.run tree r w).tree.at? other = some (.file content mode) ↔
            (q.left tree r).at? other = some (.file content mode) := by
  refine ⟨fun hr => left_eq_of_leavesFiles hr q tree, ?_, ?_⟩
  · intro fault hfault
    rcases run_cases q tree r w with ⟨-, -, -, htree⟩ | ⟨g, message, -, hresult, hgrown⟩ |
      ⟨g, made, dest, -, hresult, -⟩
    · rw [htree]
      exact ⟨FileTree.Grown.refl _, fun _ => rfl⟩
    · refine ⟨hgrown, ?_⟩
      intro hother
      rw [hresult] at hfault
      cases hfault
      exact absurd rfl (hother q.target message)
    · rw [hresult] at hfault
      cases hfault
  · intro path hpath
    obtain ⟨g, made, dest, hgraph, htree, hgrown, hne, -, hresolve⟩ := exists_of_run_eq_ok hpath
    refine ⟨BuildFile.text g, dest, ?_, hresolve, ?_, ?_⟩
    · rw [generate, hgraph]
      rfl
    · rw [htree, FileTree.at?_put_self made _ hne]
      rfl
    · intro other hother content mode
      rw [htree, FileTree.at?_put_of_ne made _ hother]
      exact hgrown.at?_eq_file_iff

/-- A disk on which files can be written but not synced. -/
def brokenDisk : Stager where
  name := Stager.freshName
  at?_name := Stager.at?_freshName
  creation? := Stager.tooLong?
  creation?_of_long := Stager.usual.creation?_of_long
  refusal? _ _ _ step :=
    if step = .sync then some { obstacle := .reported "Input/output error (os error 5)" } else none

theorem run_all_or_nothing_small :
    (∃ text dest, (small "out/build.ninja").generate smallTree (.ofReplies []) = .ok text ∧
      ((small "out/build.ninja").run smallTree (.ofReplies []) .usual).tree.at? dest =
        some (.file (Utf8.encode text) 0o644)) ∧
    FileTree.Grown smallTree ((small "new/out/").run smallTree (.ofReplies []) .usual).tree ∧
    FileTree.Grown smallTree ((small "out/build.ninja").run smallTree (.ofReplies []) brokenDisk).tree := by
  have hwritten : ((small "out/build.ninja").run smallTree (.ofReplies []) .usual).result.toOption =
      some ⟨"out/build.ninja"⟩ := by
    decide +kernel
  have hfailed : ((small "new/out/").run smallTree (.ofReplies []) .usual).result.toOption = none ∧
      ((small "out/build.ninja").run smallTree (.ofReplies []) brokenDisk).result.toOption = none := by
    decide +kernel
  refine ⟨?_, ?_, ?_⟩
  · obtain ⟨-, -, hok⟩ := run_all_or_nothing (small "out/build.ninja") smallTree (.ofReplies []) .usual
    obtain ⟨text, dest, hgenerate, -, hfile, -⟩ := hok _ (eq_ok_of_toOption_eq_some hwritten)
    exact ⟨text, dest, hgenerate, hfile⟩
  · obtain ⟨hleft, herror, -⟩ := run_all_or_nothing (small "new/out/") smallTree (.ofReplies []) .usual
    obtain ⟨fault, hresult⟩ := exists_of_toOption_eq_none hfailed.1
    obtain ⟨hgrown, -⟩ := herror fault hresult
    rw [hleft (Responder.leavesFiles_ofReplies [])] at hgrown
    exact hgrown
  · obtain ⟨hleft, herror, -⟩ :=
      run_all_or_nothing (small "out/build.ninja") smallTree (.ofReplies []) brokenDisk
    obtain ⟨fault, hresult⟩ := exists_of_toOption_eq_none hfailed.2
    obtain ⟨hgrown, -⟩ := herror fault hresult
    rw [hleft (Responder.leavesFiles_ofReplies [])] at hgrown
    exact hgrown

end Request

end BuildPlan
