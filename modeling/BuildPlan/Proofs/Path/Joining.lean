import BuildPlan.Proofs.Path.Spelling
import Mathlib.Data.List.Infix

/-!
# Paths below a root

A path that is given below a root leads to the two put together. To tell whether two paths lead to the
same place they can be put below the root and compared, or the root can be taken off where it stands in
front and what is left can be compared. The first is what happens to files, the second is what the
checks do. This file shows that the two agree, as long as the root is the current directory or absolute.

* `components_join` — below a root, the steps of a relative path follow the components of the root.
* `dotless_join` — so without dots, the two are put together as they are.
* `join_cases` — below an absolute root: what is left of a path either has no leading slash, and then the
  path leads to the root and what is left together, or it has one, and then the path is left whole and
  does not have the root in front.
* **`under_eq_iff`** — two paths are left with the same exactly if they lead to the same place.

A root such as `a` is different: below it `b` and `a/b` are both left with `b`, although they lead to
`a/b` and to `a/a/b`.
-/

namespace BuildPlan

namespace Path

variable {root p q : Path}

/-! ### Putting a path below a root -/

theorem pieces_append_slash (front back : String) :
    (Path.mk (front ++ "/" ++ back)).pieces = (Path.mk front).pieces ++ (Path.mk back).pieces := by
  have htext : (front ++ "/" ++ back).toList = front.toList ++ '/' :: back.toList := by simp
  rw [pieces, htext, List.splitOn_append_cons_self]
  rfl

theorem exists_pieces (p : Path) : ∃ first rest, p.pieces = first :: rest :=
  List.exists_cons_of_ne_nil (List.splitOn_ne_nil '/' p.text.toList)

/-- With more pieces to come, the first piece is read alike whatever they are. -/
theorem components_of_pieces {first : List Char} {rest back : List (List Char)}
    (h : p.pieces = first :: (rest ++ back)) (hback : back ≠ []) :
    p.components = (Component.ofFirstPiece? first true).toList ++
      rest.filterMap Component.ofPiece? ++ back.filterMap Component.ofPiece? := by
  have hmore : (!(rest ++ back).isEmpty) = true := by simp [hback]
  rw [components, h]
  simp only [hmore, List.filterMap_append, List.append_assoc]

theorem components_append_slash (front back : String) :
    (Path.mk (front ++ "/" ++ back)).components =
      (Path.mk (front ++ "/" ++ "")).components ++ (Path.mk back).steps := by
  obtain ⟨first, rest, hfront⟩ := (Path.mk front).exists_pieces
  have hback := List.splitOn_ne_nil '/' back.toList
  have hempty : List.filterMap Component.ofPiece? (Path.mk "").pieces = [] := by decide
  have hboth := pieces_append_slash front back
  have honly := pieces_append_slash front ""
  rw [hfront, List.cons_append] at hboth honly
  rw [components_of_pieces hboth hback, components_of_pieces honly (by decide), hempty,
    List.append_nil]
  rfl

/-- A slash at the end does not show, unless it is all there is. -/
theorem components_slash {front : String} (h : front ≠ "") :
    (Path.mk (front ++ "/" ++ "")).components = (Path.mk front).components := by
  obtain ⟨first, rest, hfront⟩ := (Path.mk front).exists_pieces
  have hempty : List.filterMap Component.ofPiece? (Path.mk "").pieces = [] := by decide
  have honly := pieces_append_slash front ""
  rw [hfront, List.cons_append] at honly
  rw [components_of_pieces honly (by decide), hempty, List.append_nil, components, hfront]
  by_cases hrest : rest = []
  · -- the text has no slash, so its one piece is the text itself, which is not empty
    have hfirst : first ≠ [] := by
      rintro rfl
      have hjoined : ['/'].intercalate (front.toList.splitOn '/') = front.toList :=
        List.intercalate_splitOn '/'
      rw [show front.toList.splitOn '/' = [] :: rest from hfront, hrest,
        List.intercalate_singleton] at hjoined
      exact h (String.toList_inj.1 hjoined.symm)
    simp only [Component.ofFirstPiece?, if_neg hfirst]
  · have hmore : (!rest.isEmpty) = true := by simpa using hrest
    simp only [hmore]

/-- **Below a root, the steps of a relative path follow the components of the root.** -/
theorem components_join (hroot : root.text ≠ "") (hp : p.isAbsolute = false) :
    (root.join p).components = root.components ++ p.steps := by
  have hempty : root.text.isEmpty = false := by
    rw [← Bool.not_eq_true, String.isEmpty_iff]
    exact hroot
  rw [join, if_neg (by simp [hp]), hempty, Bool.false_or]
  split
  · rename_i hlast
    -- the root brings its own slash
    obtain ⟨cs, hcs⟩ := List.getLast?_eq_some_iff.1 (eq_of_beq hlast)
    have hfront : root = ⟨String.ofList cs ++ "/" ++ ""⟩ := by
      refine congrArg Path.mk ?_
      rw [← String.toList_inj, hcs]
      simp
    have hjoin : root.text ++ p.text = String.ofList cs ++ "/" ++ p.text := by
      rw [hfront, String.append_empty]
    rw [hjoin, components_append_slash, ← hfront]
  · rw [components_append_slash root.text p.text, components_slash hroot]

/-- A path with a leading slash leads where it leads without a root. -/
theorem join_of_absolute (hp : p.isAbsolute = true) : root.join p = p := by
  rw [join, if_pos hp]

theorem filter_steps (p : Path) : p.steps.filter (· ≠ .current) = p.steps :=
  Component.filter_eq_self (Component.current_notMem_filterMap p.pieces)

/-- Without dots, root and path are put together as they are. -/
theorem dotless_join (hp : p.isAbsolute = false) :
    (root.join p).dotless = root.dotless ++ p.dotless := by
  rw [dotless_eq_steps hp]
  by_cases hroot : root.text = ""
  · have hjoin : root.join p = p := by
      rw [join, if_neg (by simp [hp]), hroot]
      simp
    have hroot : root = ⟨""⟩ := congrArg Path.mk hroot
    have hnone : (Path.mk "").dotless = [] := by decide
    rw [hjoin, hroot, hnone, List.nil_append, dotless_eq_steps hp]
  · rw [dotless, components_join hroot hp, List.filter_append, filter_steps, ← dotless]

/-! ### Roots -/

/-- The path is the current directory, in some spelling, or it is absolute. -/
def Rooted (root : Path) : Prop := root.dotless = [] ∨ root.isAbsolute = true

example : (Path.mk ".").Rooted ∧ (Path.mk "/work/x/").Rooted := ⟨.inl (by decide), .inr (by decide)⟩

/-- Below the current directory, a path without dots is left whole. -/
theorem under_of_dotless_eq_nil (h : root.dotless = []) : root.under p = p.dotless := by
  have hroot := root.components_eq
  rw [h, List.append_nil] at hroot
  by_cases hstart : root.startsHere = true
  · rw [if_pos hstart] at hroot
    rw [under, ← under_here p, under, hroot]
    rfl
  · rw [if_neg hstart] at hroot
    rw [under, hroot]
    rfl

/-- An absolute path starts with a slash, and it has no other slash and no dot among its components. -/
theorem exists_components_of_absolute (h : p.isAbsolute = true) :
    ∃ rest, p.components = .root :: rest ∧ .root ∉ rest ∧ .current ∉ rest := by
  obtain ⟨cs, hcs⟩ : ∃ cs, p.text.toList = '/' :: cs := by
    rw [isAbsolute, beq_iff_eq] at h
    exact List.head?_eq_some_iff.1 h
  have hpieces : p.pieces = [] :: cs.splitOn '/' := by
    rw [pieces, hcs]
    exact List.splitOn_append_cons_self [] cs
  have hmore : (!(cs.splitOn '/').isEmpty) = true := by simp [List.splitOn_ne_nil]
  refine ⟨(cs.splitOn '/').filterMap Component.ofPiece?, ?_, Component.root_notMem_filterMap _,
    Component.current_notMem_filterMap _⟩
  rw [components, hpieces]
  simp only [hmore]
  rfl

theorem dotless_of_absolute (h : p.isAbsolute = true) : p.dotless = p.components := by
  obtain ⟨rest, hcomponents, -, hcurrent⟩ := exists_components_of_absolute h
  refine Component.filter_eq_self ?_
  rw [hcomponents, List.mem_cons, not_or]
  exact ⟨nofun, hcurrent⟩

theorem root_notMem_dotless (h : p.isAbsolute = false) : .root ∉ p.dotless := by
  rw [dotless_eq_steps h]
  exact Component.root_notMem_filterMap p.pieces

theorem under_of_append {left : List Component} (h : root.components ++ left = p.components) :
    root.under p = left.filter (· ≠ .current) := by
  rw [under, List.isPrefixOf?_eq_some_iff_append_eq.2 h]
  rfl

theorem under_of_outside (h : ¬ root.components <+: p.components) : root.under p = p.dotless := by
  have hnone : root.components.isPrefixOf? p.components = none := by
    rw [Option.eq_none_iff_forall_ne_some]
    intro left heq
    exact h ⟨left, List.isPrefixOf?_eq_some_iff_append_eq.1 heq⟩
  rw [under, hnone]
  rfl

/-- A relative path does not have an absolute root in front. -/
theorem under_of_relative (hroot : root.isAbsolute = true) (hp : p.isAbsolute = false) :
    root.under p = p.dotless := by
  obtain ⟨rest, hrest, -, -⟩ := exists_components_of_absolute hroot
  have hslash : Component.root ∉ p.components := by
    rw [components_eq, List.mem_append, not_or]
    refine ⟨?_, root_notMem_dotless hp⟩
    cases p.startsHere <;> simp
  refine under_of_outside ?_
  rintro ⟨left, hsplit⟩
  rw [← hsplit, hrest] at hslash
  exact hslash List.mem_cons_self

/-- **What is left of a path below an absolute root** says where the path leads. -/
theorem join_cases (hroot : root.isAbsolute = true) (p : Path) :
    (.root ∉ root.under p ∧ (root.join p).dotless = root.dotless ++ root.under p) ∨
      (.root ∈ root.under p ∧ (root.join p).dotless = root.under p ∧
        ¬ root.dotless <+: root.under p) := by
  by_cases hp : p.isAbsolute = true
  · obtain ⟨rest, hrest, -, -⟩ := exists_components_of_absolute hroot
    obtain ⟨more, hmore, hslash, hdots⟩ := exists_components_of_absolute hp
    rw [join_of_absolute hp, dotless_of_absolute hroot, dotless_of_absolute hp]
    by_cases hprefix : root.components <+: p.components
    · obtain ⟨left, hsplit⟩ := hprefix
      -- the root takes the leading slash with it
      have hmem : left ⊆ more := by
        have htail := hsplit
        rw [hrest, hmore, List.cons_append, List.cons_inj_right] at htail
        rw [← htail]
        exact List.subset_append_right rest left
      have hunder : root.under p = left := by
        rw [under_of_append hsplit]
        exact Component.filter_eq_self fun h => hdots (hmem h)
      rw [hunder]
      exact .inl ⟨fun h => hslash (hmem h), hsplit.symm⟩
    · have hunder : root.under p = p.components := by
        rw [under_of_outside hprefix, dotless_of_absolute hp]
      rw [hunder]
      refine .inr ⟨?_, rfl, hprefix⟩
      rw [hmore]
      exact List.mem_cons_self
  · have hp : p.isAbsolute = false := Bool.eq_false_iff.2 hp
    rw [under_of_relative hroot hp]
    exact .inl ⟨root_notMem_dotless hp, dotless_join hp⟩

/-- **Two paths are left with the same below a root exactly if they lead to the same place from it.** -/
theorem under_eq_iff (hroot : root.Rooted) :
    root.under p = root.under q ↔ (root.join p).dotless = (root.join q).dotless := by
  rcases hroot with hhere | habsolute
  · have hjoin : ∀ p, (root.join p).dotless = p.dotless := by
      intro p
      by_cases hp : p.isAbsolute = true
      · rw [join_of_absolute hp]
      · rw [dotless_join (Bool.eq_false_iff.2 hp), hhere, List.nil_append]
    rw [under_of_dotless_eq_nil hhere, under_of_dotless_eq_nil hhere, hjoin, hjoin]
  · rcases join_cases habsolute p with ⟨hp, hjoin⟩ | ⟨hp, hjoin, hprefix⟩
    · rcases join_cases habsolute q with ⟨hq, hjoin'⟩ | ⟨hq, hjoin', hprefix'⟩
      · rw [hjoin, hjoin', List.append_cancel_left_eq]
      · rw [hjoin, hjoin']
        constructor
        · intro heq
          rw [heq] at hp
          exact absurd hq hp
        · intro heq
          exact absurd ⟨_, heq⟩ hprefix'
    · rcases join_cases habsolute q with ⟨hq, hjoin'⟩ | ⟨hq, hjoin', -⟩
      · rw [hjoin, hjoin']
        constructor
        · intro heq
          rw [heq] at hp
          exact absurd hp hq
        · intro heq
          exact absurd ⟨_, heq.symm⟩ hprefix
      · rw [hjoin, hjoin']

end Path

end BuildPlan
