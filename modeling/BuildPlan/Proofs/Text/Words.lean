import BuildPlan.Text.Blank
import Mathlib.Data.List.Basic

/-!
# Words and single spaces

A text is its words and the white space around them. Writing the words with single spaces between them
forgets what white space it was, and nothing else: the words are cut out of the result again.

* `eq_false_of_mem_splitOnP`, `notMem_of_mem_splitOn` — what is cut out of a list holds nothing that it is
  cut at.
* `Text.AreWords` — words are not empty and hold no white space.
* `words_append_blank` — white space ends a word, whatever stands before and after it.
* **`words_unwords`** — words written with single spaces are cut out as those words.
* `notMem_unwords` — no white space but those spaces is written, so there is no line break.
-/

namespace BuildPlan

theorem eq_false_of_mem_splitOnP {α : Type} {p : α → Bool} {xs piece : List α}
    (h : piece ∈ xs.splitOnP p) : ∀ x ∈ piece, p x = false := by
  induction xs generalizing piece with
  | nil =>
    rw [List.splitOnP_nil, List.mem_singleton] at h
    simp [h]
  | cons x xs ih =>
    rw [List.splitOnP_cons_eq_if_modifyHead] at h
    split at h
    · rcases List.mem_cons.1 h with rfl | h
      · exact fun y hy => absurd hy List.not_mem_nil
      · exact ih h
    · rename_i hx
      obtain ⟨first, more, hpieces⟩ := List.exists_cons_of_ne_nil (List.splitOnP_ne_nil p xs)
      rw [hpieces] at h ih
      rcases List.mem_cons.1 h with rfl | h
      · exact List.forall_mem_cons.2 ⟨Bool.eq_false_iff.2 hx, ih List.mem_cons_self⟩
      · exact ih (List.mem_cons_of_mem _ h)

theorem notMem_of_mem_splitOn {α : Type} [BEq α] [LawfulBEq α] {sep : α} {xs piece : List α}
    (h : piece ∈ xs.splitOn sep) : sep ∉ piece := by
  intro hmem
  rw [List.splitOn_eq_splitOnP] at h
  have hne := eq_false_of_mem_splitOnP h sep hmem
  rw [beq_self_eq_true] at hne
  cases hne

namespace Text

/-- Texts that are words: they are not empty and hold no white space. -/
def AreWords (ws : List (List Char)) : Prop := ∀ w ∈ ws, w ≠ [] ∧ ∀ c ∈ w, isBlank c = false

theorem areWords_words (cs : List Char) : AreWords (words cs) := by
  intro w hw
  exact ⟨ne_nil_of_mem_words hw, eq_false_of_mem_splitOnP (List.mem_filter.1 hw).1⟩

theorem AreWords.append {ws us : List (List Char)} (hws : AreWords ws) (hus : AreWords us) :
    AreWords (ws ++ us) := by
  intro w hw
  rcases List.mem_append.1 hw with hw | hw
  · exact hws w hw
  · exact hus w hw

theorem AreWords.tail {w : List Char} {ws : List (List Char)} (h : AreWords (w :: ws)) : AreWords ws :=
  fun u hu => h u (List.mem_cons_of_mem w hu)

theorem words_append_blank {c : Char} (hc : isBlank c = true) (front back : List Char) :
    words (front ++ c :: back) = words front ++ words back := by
  rw [words, List.splitOnP_append_cons front back hc, List.filter_append]
  rfl

theorem words_eq_singleton {w : List Char} (hne : w ≠ []) (hplain : ∀ c ∈ w, isBlank c = false) :
    words w = [w] := by
  rw [words, List.splitOnP_eq_singleton hplain, List.filter_cons_of_pos (by simpa using hne)]
  rfl

theorem unwords_cons_cons (w u : List Char) (ws : List (List Char)) :
    unwords (w :: u :: ws) = w ++ ' ' :: unwords (u :: ws) := by
  rw [unwords, List.intercalate_cons_cons, List.append_assoc]
  rfl

/-- **Words that are written with single spaces are cut out again.** -/
theorem words_unwords {ws : List (List Char)} (h : AreWords ws) : words (unwords ws) = ws := by
  induction ws with
  | nil => rfl
  | cons w ws ih =>
    obtain ⟨hne, hplain⟩ := h w List.mem_cons_self
    cases ws with
    | nil =>
      rw [unwords, List.intercalate_singleton]
      exact words_eq_singleton hne hplain
    | cons u ws =>
      rw [unwords_cons_cons, words_append_blank (by decide), words_eq_singleton hne hplain, ih h.tail]
      rfl

/-- Two lists of words are written with a space between the two. -/
theorem unwords_append {ws us : List (List Char)} (hws : ws ≠ []) (hus : us ≠ []) :
    unwords (ws ++ us) = unwords ws ++ ' ' :: unwords us := by
  induction ws with
  | nil => exact absurd rfl hws
  | cons w ws ih =>
    cases ws with
    | nil =>
      obtain ⟨u, us, rfl⟩ := List.exists_cons_of_ne_nil hus
      rw [List.singleton_append, unwords_cons_cons, unwords, unwords, List.intercalate_singleton]
    | cons v ws =>
      rw [List.cons_append, List.cons_append, unwords_cons_cons, unwords_cons_cons,
        ← List.cons_append, ih (List.cons_ne_nil v ws), List.append_assoc, List.cons_append]

theorem unwords_eq_nil_iff {ws : List (List Char)} (h : AreWords ws) : unwords ws = [] ↔ ws = [] := by
  constructor
  · intro hnil
    have hwords := words_unwords h
    rw [hnil] at hwords
    exact hwords.symm
  · rintro rfl
    rfl

theorem notMem_unwords {c : Char} (hc : isBlank c = true) (hspace : c ≠ ' ') {ws : List (List Char)}
    (h : AreWords ws) : c ∉ unwords ws := by
  induction ws with
  | nil => exact List.not_mem_nil
  | cons w ws ih =>
    have hw : c ∉ w := by
      intro hmem
      have hplain := (h w List.mem_cons_self).2 c hmem
      rw [hc] at hplain
      cases hplain
    cases ws with
    | nil =>
      rw [unwords, List.intercalate_singleton]
      exact hw
    | cons u ws =>
      rw [unwords_cons_cons, List.mem_append, List.mem_cons, not_or, not_or]
      exact ⟨hw, hspace, ih h.tail⟩

end Text

end BuildPlan
