import BuildPlan.Proofs.Outcome
import BuildPlan.Template.Read
import Mathlib.Data.List.TakeWhile

/-!
# Canonical templates

Reading a template and writing it are inverse to each other on the segment lists that reading gives.
Those are the *canonical* ones: no literal is empty, no two literals stand side by side, no literal
holds a line feed, and every variable has a valid name.

* `Template.Canonical` — the canonical lists of segments.
* `Template.tokensOf` — the tokens that a list of segments is made of; `segmentsOf_tokensOf` puts them
  together again.
* `Template.Escaped` — the ways to write a text with escapes; the escape of values is one, and that of
  paths is another. `Escaped.tokens_append` reads them all.
* `tokens_spell` — the written form of canonical segments reads as those tokens. A reference is
  written without braces only where the text after it cannot be taken for a part of its name.
* **`canonical_of_read`** — what is read is canonical.
* **`read_display`** — what is canonical is read back from its written form.
-/

namespace BuildPlan

namespace Template

/-- The segment is literal text. -/
def isLiteral : Segment → Bool
  | .literal _ => true
  | .variable _ => false

/-- No literal is empty, holds a line feed or stands beside another literal, and every variable has a
valid name. -/
def Canonical : List Segment → Prop
  | [] => True
  | .literal text :: rest =>
    text.toList ≠ [] ∧ '\n' ∉ text.toList ∧ rest.head?.all (fun s => !isLiteral s) = true ∧
      Canonical rest
  | .variable name :: rest => isName name.toList = true ∧ Canonical rest

/-- A valid name has at least one character, and only name characters. -/
theorem isName_iff {name : List Char} :
    isName name = true ↔ name ≠ [] ∧ ∀ c ∈ name, isNameChar c = true := by
  rw [isName, Bool.and_eq_true, List.all_eq_true, Bool.not_eq_true', List.isEmpty_eq_false_iff]

/-- The tokens that a list of segments is made of. -/
def tokensOf : List Segment → List Token
  | [] => []
  | .literal text :: rest => text.toList.map .char ++ tokensOf rest
  | .variable name :: rest => .reference name.toList :: tokensOf rest

/-! ### Tokens and segments -/

theorem group_map_char (cs : List Char) (ts : List Token) :
    group (cs.map .char ++ ts) = (cs ++ (group ts).1, (group ts).2) := by
  induction cs with
  | nil => rfl
  | cons c cs ih => rw [List.map_cons, List.cons_append, group, ih, List.cons_append]

/-- Flushing canonical segments without a literal at their head restores them. -/
theorem segmentsOf_tokensOf {segments : List Segment} (h : Canonical segments) :
    segmentsOf (tokensOf segments) = segments := by
  induction segments with
  | nil => rfl
  | cons segment rest ih =>
    cases segment with
    | literal text =>
      obtain ⟨hne, -, halone, hrest⟩ := h
      -- no literal follows, so nothing is pending where this one ends
      have hgroup : group (tokensOf rest) = ([], rest) := by
        have ih := ih hrest
        cases rest with
        | nil => rfl
        | cons next more =>
          cases next with
          | literal other => simp [isLiteral] at halone
          | «variable» name =>
            rw [segmentsOf, tokensOf, group] at ih
            rw [tokensOf, group]
            exact congrArg (Prod.mk []) ih
      rw [segmentsOf, tokensOf, group_map_char, hgroup, List.append_nil]
      simp [flush, hne]
    | «variable» name =>
      have ih := ih h.2
      rw [segmentsOf] at ih
      rw [segmentsOf, tokensOf, group]
      simp only [flush, List.isEmpty_nil, if_true, String.ofList_toList]
      exact congrArg _ ih

/-- A token as it comes out of a one-line text. -/
def TokenValid : Token → Prop
  | .char c => c ≠ '\n'
  | .reference name => isName name = true

/-- What is put together from valid tokens is canonical: the pending text has no line feed, and the
segments after it are canonical and do not start with a literal. -/
theorem canonical_group {ts : List Token} (h : ∀ t ∈ ts, TokenValid t) :
    '\n' ∉ (group ts).1 ∧ Canonical (group ts).2 ∧
      (group ts).2.head?.all (fun s => !isLiteral s) = true := by
  induction ts with
  | nil => exact ⟨by simp [group], trivial, rfl⟩
  | cons t ts ih =>
    obtain ⟨hline, hcanonical, halone⟩ := ih fun u hu => h u (List.mem_cons_of_mem t hu)
    have ht := h t List.mem_cons_self
    cases t with
    | char c =>
      rw [group]
      refine ⟨?_, hcanonical, halone⟩
      rw [List.mem_cons, not_or]
      exact ⟨fun hc => ht (Eq.symm hc), hline⟩
    | reference name =>
      rw [group]
      refine ⟨by simp, ⟨by rw [String.toList_ofList]; exact ht, ?_⟩, rfl⟩
      unfold flush
      split
      · exact hcanonical
      · rename_i hne
        refine ⟨?_, ?_, halone, hcanonical⟩
        · rw [String.toList_ofList]
          simpa using hne
        · rw [String.toList_ofList]
          exact hline

theorem canonical_segmentsOf {ts : List Token} (h : ∀ t ∈ ts, TokenValid t) :
    Canonical (segmentsOf ts) := by
  obtain ⟨hline, hcanonical, halone⟩ := canonical_group h
  unfold segmentsOf flush
  dsimp only
  split
  · exact hcanonical
  · rename_i hne
    refine ⟨?_, ?_, halone, hcanonical⟩
    · rw [String.toList_ofList]
      simpa using hne
    · rw [String.toList_ofList]
      exact hline

/-! ### Reading gives canonical segments -/

/-- A token whose `$` has been read is valid, and what follows it is a part of what was left. -/
theorem afterDollar_eq_ok {cs rest : List Char} {t : Token} (h : afterDollar cs = .ok (t, rest)) :
    TokenValid t ∧ rest ⊆ cs := by
  unfold afterDollar at h
  split at h
  · cases h
    exact ⟨(by decide : '$' ≠ '\n'), List.subset_cons_self _ _⟩
  · cases h
    exact ⟨(by decide : ' ' ≠ '\n'), List.subset_cons_self _ _⟩
  · cases h
    exact ⟨(by decide : ':' ≠ '\n'), List.subset_cons_self _ _⟩
  · rename_i after
    dsimp only at h
    split at h
    · cases h
    · rename_i brace more heq
      split at h
      · rename_i hname
        cases h
        refine ⟨hname, ?_⟩
        intro c hc
        have hmem : c ∈ after.dropWhile (· ≠ '\x7d') := by
          rw [heq]
          exact List.mem_cons_of_mem _ hc
        exact List.mem_cons_of_mem _ ((List.dropWhile_sublist _).subset hmem)
      · cases h
  · dsimp only at h
    split at h
    · cases h
    · rename_i hne
      cases h
      refine ⟨?_, (List.dropWhile_sublist _).subset⟩
      rw [TokenValid, isName, Bool.and_eq_true, Bool.not_eq_true', List.all_eq_true]
      exact ⟨Bool.eq_false_iff.2 hne, fun c hc => List.mem_takeWhile_imp hc⟩

/-- A token whose `$` starts the text is read first. -/
theorem tokens_dollar {cs after : List Char} {t : Token} (h : afterDollar cs = .ok (t, after)) :
    tokens ('$' :: cs) = (tokens after).map (t :: ·) := by
  rw [tokens, if_pos rfl]
  split
  · rename_i stray hstray
    rw [h] at hstray
    cases hstray
  · rename_i u rest hok
    rw [h] at hok
    cases hok
    rfl

theorem valid_of_mem_tokens {cs : List Char} {ts : List Token} (h : tokens cs = .ok ts)
    (hline : '\n' ∉ cs) : ∀ t ∈ ts, TokenValid t := by
  induction cs using tokens.induct generalizing ts with
  | case1 =>
    rw [tokens] at h
    cases h
    simp
  | case2 rest stray hstray =>
    rw [tokens, if_pos rfl] at h
    split at h
    · cases h
    · rename_i t after hafter
      rw [hstray] at hafter
      cases hafter
  | case3 rest t after hafter ih =>
    rw [tokens_dollar hafter] at h
    obtain ⟨us, hus, rfl⟩ := exists_of_map_eq_ok h
    obtain ⟨hvalid, hsub⟩ := afterDollar_eq_ok hafter
    have hline' : '\n' ∉ after := fun hmem => hline (List.mem_cons_of_mem _ (hsub hmem))
    exact List.forall_mem_cons.2 ⟨hvalid, ih hus hline'⟩
  | case4 c rest hc ih =>
    rw [tokens, if_neg hc] at h
    obtain ⟨us, hus, rfl⟩ := exists_of_map_eq_ok h
    rw [List.mem_cons, not_or] at hline
    exact List.forall_mem_cons.2 ⟨fun hn => hline.1 (Eq.symm hn), ih hus hline.2⟩

/-- **What is read is canonical.** -/
theorem canonical_of_read {text : String} {t : Template} (h : read text = .ok t) :
    Canonical t.segments := by
  unfold read at h
  dsimp only at h
  split at h
  · cases h
  · rename_i hline
    split at h
    · rename_i ts hts
      cases h
      refine canonical_segmentsOf (valid_of_mem_tokens hts ?_)
      simpa using hline
    · split at h
      · cases h
      · cases h

/-! ### Escaped text is read back -/

/-- The second text is a way to write the first. A character stands as it is, unless it is a `$`; and it may
stand behind a `$` if there is an escape for it. -/
inductive Escaped : List Char → List Char → Prop
  /-- Nothing is written for the empty text. -/
  | nil : Escaped [] []
  /-- A character other than `$` is written as it is. -/
  | plain {c : Char} {text written : List Char} (hc : c ≠ '$') (h : Escaped text written) :
      Escaped (c :: text) (c :: written)
  /-- A `$`, a space or a colon is written as an escape. -/
  | escape {c : Char} {text written : List Char} (hc : c = '$' ∨ c = ' ' ∨ c = ':')
      (h : Escaped text written) : Escaped (c :: text) ('$' :: c :: written)

theorem escaped_value (cs : List Char) : Escaped cs (Escape.value cs) := by
  induction cs with
  | nil => exact .nil
  | cons c cs ih =>
    by_cases hc : c = '$'
    · subst hc
      rw [Escape.value_dollar]
      exact .escape (.inl rfl) ih
    · rw [Escape.value_cons_of_ne hc]
      exact .plain hc ih

theorem escaped_path (cs : List Char) : Escaped cs (Escape.path cs) := by
  induction cs with
  | nil => exact .nil
  | cons c cs ih =>
    by_cases hc : c = '$' ∨ c = ' ' ∨ c = ':'
    · rw [Escape.path_cons_of_special hc]
      exact .escape hc ih
    · rw [Escape.path_cons_of_plain hc]
      exact .plain (not_or.1 hc).1 ih

/-- Escaping brings in no new character but `$`. -/
theorem Escaped.mem_of_ne {text written : List Char} (h : Escaped text written) {c : Char}
    (hc : c ≠ '$') (hmem : c ∈ written) : c ∈ text := by
  induction h with
  | nil => exact hmem
  | plain _ _ ih => exact List.mem_cons.2 ((List.mem_cons.1 hmem).imp_right ih)
  | escape _ _ ih =>
    rw [List.mem_cons, or_iff_right hc] at hmem
    exact List.mem_cons.2 ((List.mem_cons.1 hmem).imp_right ih)

/-- Escaped text reads as its characters, whichever of them were escaped. -/
theorem Escaped.tokens_append {text written : List Char} (h : Escaped text written)
    (rest : List Char) :
    tokens (written ++ rest) = (tokens rest).map (text.map .char ++ ·) := by
  induction h with
  | nil => cases h : tokens rest <;> simp [h, Except.map]
  | plain hc _ ih =>
    rw [List.cons_append, tokens, if_neg hc, ih]
    cases tokens rest <;> rfl
  | @escape c text written hc _ ih =>
    have hafter : afterDollar (c :: (written ++ rest)) = .ok (.char c, written ++ rest) := by
      rcases hc with rfl | rfl | rfl <;> rfl
    rw [List.cons_append, List.cons_append, tokens_dollar hafter, ih]
    cases tokens rest <;> rfl

/-! ### Canonical segments are read back -/

/-- A name in braces is read as a reference. -/
theorem afterDollar_braced {name : List Char} (h : isName name = true) (rest : List Char) :
    afterDollar ('\x7b' :: (name ++ '\x7d' :: rest)) = .ok (.reference name, rest) := by
  have hall : ∀ c ∈ name, decide (c ≠ '\x7d') = true := by
    intro c hc
    rw [isName, Bool.and_eq_true, List.all_eq_true] at h
    rw [decide_eq_true_eq]
    rintro rfl
    exact absurd (h.2 _ hc) (by decide)
  simp only [afterDollar]
  rw [List.takeWhile_append_of_pos hall, List.dropWhile_append_of_pos hall]
  simp [h]

/-- A name without braces is read as a reference if what follows cannot be a part of it. -/
theorem afterDollar_plain {name : List Char} (h : isName name = true) {rest : List Char}
    (hrest : rest.head?.any isNameChar = false) :
    afterDollar (name ++ rest) = .ok (.reference name, rest) := by
  rw [isName, Bool.and_eq_true, List.all_eq_true, Bool.not_eq_true', List.isEmpty_eq_false_iff] at h
  have htake : (name ++ rest).takeWhile isNameChar = name := by
    rw [List.takeWhile_append_of_pos h.2]
    cases rest with
    | nil => simp
    | cons c rest => simpa using hrest
  have hdrop : (name ++ rest).dropWhile isNameChar = rest := by
    rw [List.dropWhile_append_of_pos h.2]
    cases rest with
    | nil => simp
    | cons c rest =>
      rw [List.dropWhile_cons_of_neg]
      simpa using hrest
  have hne : ((name ++ rest).takeWhile isNameChar).isEmpty = false := by
    rw [htake, List.isEmpty_eq_false_iff]
    exact h.1
  -- the first character of a name starts neither an escape nor a brace
  obtain ⟨first, more, rfl⟩ := List.exists_cons_of_ne_nil h.1
  have hfirst := h.2 first List.mem_cons_self
  rw [List.cons_append] at htake hdrop hne ⊢
  unfold afterDollar
  split
  · rename_i heq
    cases heq
    exact absurd hfirst (by decide)
  · rename_i heq
    cases heq
    exact absurd hfirst (by decide)
  · rename_i heq
    cases heq
    exact absurd hfirst (by decide)
  · rename_i heq
    cases heq
    exact absurd hfirst (by decide)
  · dsimp only
    rw [hne, htake, hdrop]
    rfl

/-- What is written after a plain reference does not lengthen its name. -/
theorem head?_spell_of_not_extendsName {segments : List Segment} (h : Canonical segments)
    (hextends : extendsName segments = false) :
    (spell segments).head?.any isNameChar = false := by
  cases segments with
  | nil => rfl
  | cons segment rest =>
    cases segment with
    | literal text =>
      obtain ⟨c, cs, hcs⟩ := List.exists_cons_of_ne_nil h.1
      have hc : isNameChar c = false := by simpa [extendsName, hcs] using hextends
      rw [spell, hcs]
      by_cases hdollar : c = '$'
      · subst hdollar
        rw [Escape.value_dollar]
        exact hc
      · rw [Escape.value_cons_of_ne hdollar]
        exact hc
    | «variable» name =>
      rw [spell, reference]
      split <;> rfl

/-- A written reference is read as the reference that it is, and all that is written after it is left. -/
theorem afterDollar_spell {name : String} (hname : isName name.toList = true) {rest : List Segment}
    (hrest : Canonical rest) :
    ∃ cs, reference name.toList (extendsName rest) ++ spell rest = '$' :: cs ∧
      afterDollar cs = .ok (.reference name.toList, spell rest) := by
  cases hextends : extendsName rest with
  | true =>
    refine ⟨_, ?_, afterDollar_braced hname (spell rest)⟩
    simp [reference]
  | false =>
    exact ⟨name.toList ++ spell rest, by simp [reference],
      afterDollar_plain hname (head?_spell_of_not_extendsName hrest hextends)⟩

/-- **The written form of canonical segments reads as their tokens.** -/
theorem tokens_spell {segments : List Segment} (h : Canonical segments) :
    tokens (spell segments) = .ok (tokensOf segments) := by
  induction segments with
  | nil =>
    rw [spell, tokens]
    rfl
  | cons segment rest ih =>
    cases segment with
    | literal text =>
      rw [spell, (escaped_value text.toList).tokens_append, ih h.2.2.2]
      rfl
    | «variable» name =>
      obtain ⟨hname, hrest⟩ := h
      obtain ⟨cs, hcs, hafter⟩ := afterDollar_spell hname hrest
      rw [spell, hcs, tokens_dollar hafter, ih hrest]
      rfl

theorem newline_notMem_spell {segments : List Segment} (h : Canonical segments) :
    '\n' ∉ spell segments := by
  induction segments with
  | nil => simp [spell]
  | cons segment rest ih =>
    cases segment with
    | literal text =>
      obtain ⟨-, hline, -, hrest⟩ := h
      rw [spell, List.mem_append, not_or]
      exact ⟨fun hmem => hline ((escaped_value _).mem_of_ne (by decide) hmem), ih hrest⟩
    | «variable» name =>
      obtain ⟨hname, hrest⟩ := h
      rw [isName, Bool.and_eq_true, List.all_eq_true] at hname
      have hfresh : '\n' ∉ name.toList := fun hmem => absurd (hname.2 _ hmem) (by decide)
      rw [spell, List.mem_append, not_or]
      refine ⟨?_, ih hrest⟩
      rw [reference]
      split
      · simp [hfresh]
      · simp [hfresh]

/-- **What is canonical is read back from its written form.** -/
theorem read_display {t : Template} (h : Canonical t.segments) : read t.display = .ok t := by
  have hline : (spell t.segments).contains '\n' = false := by
    rw [Bool.eq_false_iff, ne_eq, List.contains_iff_mem]
    exact newline_notMem_spell h
  rw [read]
  simp only [toList_display, hline, tokens_spell h, segmentsOf_tokensOf h]
  rfl

end Template

end BuildPlan
