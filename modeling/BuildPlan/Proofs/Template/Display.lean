import BuildPlan.Proofs.Template.Canonical
import Mathlib.Data.List.Chain

/-!
# Reading what was written

Reading and writing undo each other on canonical templates. Here these are described clause by clause, as
one would check them by looking at the segments one after the other, and what is written for a variable is
looked at by itself: the text after it never becomes a part of its name.

* `Template.Regular` — the clauses; `canonical_iff_regular` says that they describe the canonical lists.
* `spell_append_variable` — a list of segments may be cut before a variable and written in two parts.
* **`read_display_inverse`** — what is read is canonical, what is canonical is read back, and every
  variable is read with its own name.
-/

namespace BuildPlan

namespace Template

/-- What is asked of the segments of a template. -/
structure Regular (segments : List Segment) : Prop where
  /-- No literal is empty. -/
  literal_ne : ∀ text, Segment.literal text ∈ segments → text ≠ ""
  /-- No literal holds a line feed. -/
  literal_line : ∀ text, Segment.literal text ∈ segments → '\n' ∉ text.toList
  /-- No two literals stand side by side. -/
  literal_alone : segments.IsChain fun a b => ¬ (isLiteral a = true ∧ isLiteral b = true)
  /-- Every variable has at least one character to its name, and only name characters. -/
  variable_name : ∀ name, Segment.variable name ∈ segments →
    name ≠ "" ∧ ∀ c ∈ name.toList, isNameChar c = true

theorem regular_nil : Regular [] := ⟨by simp, by simp, List.isChain_nil, by simp⟩

/-- The clauses hold of any end of a list that they hold of. -/
theorem Regular.right_of_append {before after : List Segment} (h : Regular (before ++ after)) :
    Regular after where
  literal_ne text hmem := h.literal_ne text (List.mem_append_right before hmem)
  literal_line text hmem := h.literal_line text (List.mem_append_right before hmem)
  literal_alone := h.literal_alone.right_of_append
  variable_name name hmem := h.variable_name name (List.mem_append_right before hmem)

theorem Regular.tail {segment : Segment} {rest : List Segment} (h : Regular (segment :: rest)) :
    Regular rest := by
  rw [← List.singleton_append] at h
  exact h.right_of_append

theorem regular_literal_iff {text : String} {rest : List Segment} :
    Regular (.literal text :: rest) ↔
      text.toList ≠ [] ∧ '\n' ∉ text.toList ∧ rest.head?.all (fun s => !isLiteral s) = true ∧
        Regular rest := by
  constructor
  · intro h
    refine ⟨?_, h.literal_line text List.mem_cons_self, ?_, h.tail⟩
    · rw [ne_eq, String.toList_eq_nil_iff]
      exact h.literal_ne text List.mem_cons_self
    · rw [Option.all_eq_true]
      intro next hnext
      have halone := (List.isChain_cons.1 h.literal_alone).1 next hnext
      simpa [isLiteral] using halone
  · rintro ⟨hne, hline, halone, hrest⟩
    rw [ne_eq, String.toList_eq_nil_iff] at hne
    refine ⟨?_, ?_, List.isChain_cons.2 ⟨?_, hrest.literal_alone⟩, ?_⟩
    · intro other hother
      rcases List.mem_cons.1 hother with heq | hother
      · cases heq
        exact hne
      · exact hrest.literal_ne other hother
    · intro other hother
      rcases List.mem_cons.1 hother with heq | hother
      · cases heq
        exact hline
      · exact hrest.literal_line other hother
    · intro next hnext
      have hnot := (Option.all_eq_true _ _).1 halone next hnext
      simpa [isLiteral] using hnot
    · intro name hname
      rcases List.mem_cons.1 hname with heq | hname
      · cases heq
      · exact hrest.variable_name name hname

theorem regular_variable_iff {name : String} {rest : List Segment} :
    Regular (.variable name :: rest) ↔ isName name.toList = true ∧ Regular rest := by
  rw [isName_iff, ne_eq, String.toList_eq_nil_iff]
  constructor
  · intro h
    exact ⟨h.variable_name name List.mem_cons_self, h.tail⟩
  · rintro ⟨hname, hrest⟩
    refine ⟨?_, ?_, List.isChain_cons.2 ⟨?_, hrest.literal_alone⟩, ?_⟩
    · intro text htext
      rcases List.mem_cons.1 htext with heq | htext
      · cases heq
      · exact hrest.literal_ne text htext
    · intro text htext
      rcases List.mem_cons.1 htext with heq | htext
      · cases heq
      · exact hrest.literal_line text htext
    · rintro next - ⟨hvariable, -⟩
      cases hvariable
    · intro other hother
      rcases List.mem_cons.1 hother with heq | hother
      · cases heq
        exact hname
      · exact hrest.variable_name other hother

/-- **The canonical lists of segments are the regular ones.** -/
theorem canonical_iff_regular {segments : List Segment} : Canonical segments ↔ Regular segments := by
  induction segments with
  | nil => exact ⟨fun _ => regular_nil, fun _ => trivial⟩
  | cons segment rest ih =>
    cases segment with
    | literal text => rw [Canonical, ih, regular_literal_iff]
    | «variable» name => rw [Canonical, ih, regular_variable_iff]

/-- What is written before a variable does not depend on it. -/
theorem spell_append_variable (before : List Segment) (name : String) (after : List Segment) :
    spell (before ++ .variable name :: after) = spell before ++ spell (.variable name :: after) := by
  induction before with
  | nil => rfl
  | cons segment before ih =>
    cases segment with
    | literal text => rw [List.cons_append, spell, ih, spell, List.append_assoc]
    | «variable» other =>
      -- a variable after the name does not lengthen it, and neither does the end of the text
      have hextends : extendsName (before ++ .variable name :: after) = extendsName before := by
        cases before with
        | nil => rfl
        | cons next before => cases next <;> rfl
      have hother : ∀ rest, spell (.variable other :: rest) =
          reference other.toList (extendsName rest) ++ spell rest := fun _ => rfl
      rw [List.cons_append, hother, hother, ih, hextends, List.append_assoc]

/-- **Reading and writing are inverse on canonical templates.** Whatever is read has no empty literal, no
line feed in a literal, no two literals side by side and no variable without a valid name. Every template
of that kind is read back from its written form, so that reading what was written after a first reading
changes nothing. And in the written form the reference of each variable is read with exactly the name of
that variable, which leaves exactly what is written for the segments after it. -/
theorem read_display_inverse :
    (∀ text t, read text = .ok t → Regular t.segments) ∧
    (∀ t : Template, Regular t.segments → read t.display = .ok t) ∧
    (∀ text t, read text = .ok t → read t.display = .ok t) ∧
    ∀ (t : Template) before name after, Regular t.segments →
      t.segments = before ++ .variable name :: after →
      ∃ rest, t.display.toList = (display ⟨before⟩).toList ++ '$' :: rest ∧
        afterDollar rest = .ok (.reference name.toList, (display ⟨after⟩).toList) := by
  refine ⟨?_, ?_, ?_, ?_⟩
  · intro text t h
    exact canonical_iff_regular.1 (canonical_of_read h)
  · intro t h
    exact read_display (canonical_iff_regular.2 h)
  · intro text t h
    exact read_display (canonical_of_read h)
  · intro t before name after h hsplit
    rw [hsplit] at h
    obtain ⟨hname, hafter⟩ := regular_variable_iff.1 h.right_of_append
    obtain ⟨rest, hrest, hread⟩ := afterDollar_spell hname (canonical_iff_regular.2 hafter)
    refine ⟨rest, ?_, ?_⟩
    · rw [toList_display, toList_display, hsplit, spell_append_variable, spell, hrest]
    · rw [toList_display]
      exact hread

end Template

end BuildPlan
