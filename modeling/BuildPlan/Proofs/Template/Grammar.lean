import BuildPlan.Proofs.Template.Canonical

/-!
# Which texts are templates

A template is a line made of tokens. This file says so without the reader: it lists the written forms of a
token, and calls a text a template if it is one of them after the other. The forms are ambiguous, because
a reference `$name` may stop before its name does and leave the rest to plain characters; the reader takes
the longest name. What matters is that the choice makes no difference to where a reading gets stuck.

* `Template.IsToken` — the written forms of a token; `Template.MadeOfTokens` — a text of such forms.
* `Template.BreaksAt` — a text breaks at a `$` if it is made of tokens up to there and none starts there.
* `Template.stop?` — where the reader stops. A token in front of a text does not change that
  (`stop?_append_of_isToken`), whichever way the token is cut.
* `madeOfTokens_or_breaksAt` — every text is made of tokens or breaks somewhere.
* `BreaksAt.stop?_eq` — the reader stops at the break, so that there is only one.
* **`read_outcome`** — what the reader makes of any text.
-/

namespace BuildPlan

/-- The number of bytes is that of the text in UTF-8. -/
theorem Utf8.size_eq_utf8ByteSize (cs : List Char) : size cs = (String.ofList cs).utf8ByteSize := by
  induction cs with
  | nil => rfl
  | cons c cs ih =>
    rw [size_cons, ih, String.ofList_cons, String.utf8ByteSize_append, String.utf8ByteSize_singleton]

namespace Template

/-- The written forms of a token. -/
inductive IsToken : List Char → Prop
  /-- A character other than `$` stands for itself. -/
  | plain {c : Char} (h : c ≠ '$') : IsToken [c]
  /-- An escape: `$$`, or a `$` before a space or a colon. -/
  | escape {c : Char} (h : c = '$' ∨ c = ' ' ∨ c = ':') : IsToken ['$', c]
  /-- A name in braces. -/
  | braced {name : List Char} (hne : name ≠ []) (h : ∀ c ∈ name, isNameChar c = true) :
      IsToken ('$' :: '\x7b' :: (name ++ ['\x7d']))
  /-- A name without braces, whatever follows it. -/
  | bare {name : List Char} (hne : name ≠ []) (h : ∀ c ∈ name, isNameChar c = true) :
      IsToken ('$' :: name)

/-- The text is a token after the other. -/
def MadeOfTokens (cs : List Char) : Prop :=
  ∃ pieces : List (List Char), (∀ piece ∈ pieces, IsToken piece) ∧ pieces.flatten = cs

/-- The text falls into a part that is made of tokens, a `$` that starts none, and what follows it. -/
structure BreaksAt (cs before after : List Char) : Prop where
  /-- These are the parts. -/
  split : cs = before ++ '$' :: after
  /-- The first part is made of tokens. -/
  sound : MadeOfTokens before
  /-- No token starts at the `$`. -/
  stray : ∀ piece, IsToken piece → ¬ piece <+: '$' :: after

theorem madeOfTokens_nil : MadeOfTokens [] := ⟨[], by simp, rfl⟩

theorem MadeOfTokens.cons {piece cs : List Char} (hpiece : IsToken piece) (h : MadeOfTokens cs) :
    MadeOfTokens (piece ++ cs) := by
  obtain ⟨pieces, hpieces, rfl⟩ := h
  exact ⟨piece :: pieces, List.forall_mem_cons.2 ⟨hpiece, hpieces⟩, rfl⟩

theorem BreaksAt.cons {piece cs before after : List Char} (hpiece : IsToken piece)
    (h : BreaksAt cs before after) : BreaksAt (piece ++ cs) (piece ++ before) after where
  split := by rw [h.split, List.append_assoc]
  sound := h.sound.cons hpiece
  stray := h.stray

/-! ### Where the reader stops -/

/-- Where reading stops, if it does: what is wrong there, and the text from there on. -/
def stop? (cs : List Char) : Option (Stray × List Char) :=
  match tokens cs with
  | .ok _ => none
  | .error stop => some stop

theorem stop?_nil : stop? [] = none := by
  rw [stop?, tokens]

/-- What comes after a first token decides where the reading stops. -/
theorem stop?_eq_of_tokens_eq_map {cs rest : List Char} {t : Token}
    (h : tokens cs = (tokens rest).map (t :: ·)) : stop? cs = stop? rest := by
  rw [stop?, h, stop?]
  cases tokens rest <;> rfl

theorem stop?_cons_of_ne {c : Char} (hc : c ≠ '$') (cs : List Char) : stop? (c :: cs) = stop? cs := by
  refine stop?_eq_of_tokens_eq_map (t := .char c) ?_
  rw [tokens, if_neg hc]

theorem stop?_dollar_of_ok {cs after : List Char} {t : Token} (h : afterDollar cs = .ok (t, after)) :
    stop? ('$' :: cs) = stop? after :=
  stop?_eq_of_tokens_eq_map (tokens_dollar h)

theorem stop?_dollar_of_error {cs : List Char} {stray : Stray} (h : afterDollar cs = .error stray) :
    stop? ('$' :: cs) = some (stray, '$' :: cs) := by
  have htokens : tokens ('$' :: cs) = .error (stray, '$' :: cs) := by
    rw [tokens, if_pos rfl]
    split
    · rename_i other hother
      rw [h] at hother
      cases hother
      rfl
    · rename_i t after hok
      rw [h] at hok
      cases hok
  rw [stop?, htokens]

theorem stop?_dropWhile (cs : List Char) : stop? (cs.dropWhile isNameChar) = stop? cs := by
  induction cs with
  | nil => rfl
  | cons c cs ih =>
    by_cases hc : isNameChar c = true
    · have hne : c ≠ '$' := by
        rintro rfl
        exact absurd hc (by decide)
      rw [List.dropWhile_cons_of_pos hc, ih, stop?_cons_of_ne hne]
    · rw [List.dropWhile_cons_of_neg hc]

/-- A name without braces is read with the name characters that follow it. -/
theorem afterDollar_bare {name : List Char} (hne : name ≠ []) (h : ∀ c ∈ name, isNameChar c = true)
    (rest : List Char) :
    afterDollar (name ++ rest) =
      .ok (.reference (name ++ rest.takeWhile isNameChar), rest.dropWhile isNameChar) := by
  have hname : isName (name ++ rest.takeWhile isNameChar) = true := by
    refine isName_iff.2 ⟨by simp [hne], ?_⟩
    intro c hc
    rcases List.mem_append.1 hc with hc | hc
    · exact h c hc
    · exact List.mem_takeWhile_imp hc
  have hrest : (rest.dropWhile isNameChar).head?.any isNameChar = false := by
    cases hdrop : rest.dropWhile isNameChar with
    | nil => rfl
    | cons c cs =>
      have hhead := List.head?_dropWhile_not isNameChar rest
      rw [hdrop] at hhead
      simpa using hhead
  have hread := afterDollar_plain hname hrest
  rwa [List.append_assoc, List.takeWhile_append_dropWhile] at hread

/-- **Behind the `$` of a token the reader finds a token**, perhaps a longer one, and it stops where it
would have stopped behind the first. -/
theorem exists_afterDollar {piece : List Char} (h : IsToken ('$' :: piece)) (rest : List Char) :
    ∃ t after, afterDollar (piece ++ rest) = .ok (t, after) ∧ stop? after = stop? rest := by
  cases h with
  | plain hne => exact absurd rfl hne
  | escape hc =>
    rcases hc with rfl | rfl | rfl
    · exact ⟨_, rest, rfl, rfl⟩
    · exact ⟨_, rest, rfl, rfl⟩
    · exact ⟨_, rest, rfl, rfl⟩
  | @braced name hne hname =>
    refine ⟨.reference name, rest, ?_, rfl⟩
    rw [List.cons_append, List.append_assoc]
    exact afterDollar_braced (isName_iff.2 ⟨hne, hname⟩) rest
  | bare hne hname => exact ⟨_, _, afterDollar_bare hne hname rest, stop?_dropWhile rest⟩

/-- **A token in front of a text does not change where the reader stops.** -/
theorem stop?_append_of_isToken {piece : List Char} (h : IsToken piece) (rest : List Char) :
    stop? (piece ++ rest) = stop? rest := by
  have hdollar : ∀ {cs : List Char}, IsToken ('$' :: cs) → stop? ('$' :: cs ++ rest) = stop? rest := by
    intro cs hcs
    obtain ⟨t, after, hafter, hstop⟩ := exists_afterDollar hcs rest
    rw [List.cons_append, stop?_dollar_of_ok hafter, hstop]
  cases h with
  | plain hne => exact stop?_cons_of_ne hne rest
  | escape hc => exact hdollar (.escape hc)
  | braced hne hname => exact hdollar (.braced hne hname)
  | bare hne hname => exact hdollar (.bare hne hname)

theorem MadeOfTokens.stop?_append {cs : List Char} (h : MadeOfTokens cs) (rest : List Char) :
    stop? (cs ++ rest) = stop? rest := by
  obtain ⟨pieces, hpieces, rfl⟩ := h
  induction pieces with
  | nil => rfl
  | cons piece pieces ih =>
    rw [List.forall_mem_cons] at hpieces
    rw [List.flatten_cons, List.append_assoc, stop?_append_of_isToken hpieces.1, ih hpieces.2]

theorem MadeOfTokens.stop?_eq_none {cs : List Char} (h : MadeOfTokens cs) : stop? cs = none := by
  rw [← List.append_nil cs, h.stop?_append, stop?_nil]

/-! ### Texts that break -/

/-- What the reader takes for a token behind a `$` is the rest of one. -/
theorem isToken_of_afterDollar {cs after : List Char} {t : Token}
    (h : afterDollar cs = .ok (t, after)) :
    ∃ piece, IsToken ('$' :: piece) ∧ cs = piece ++ after := by
  unfold afterDollar at h
  split at h
  · cases h
    exact ⟨['$'], .escape (.inl rfl), rfl⟩
  · cases h
    exact ⟨[' '], .escape (.inr (.inl rfl)), rfl⟩
  · cases h
    exact ⟨[':'], .escape (.inr (.inr rfl)), rfl⟩
  · rename_i inside
    dsimp only at h
    split at h
    · cases h
    · rename_i brace more hdrop
      split at h
      · rename_i hname
        cases h
        obtain ⟨hne, hchars⟩ := isName_iff.1 hname
        have hbrace : brace = '\x7d' := by
          have hhead := List.head?_dropWhile_not (· ≠ '\x7d') inside
          rw [hdrop] at hhead
          simpa using hhead
        have hsplit := List.takeWhile_append_dropWhile (p := (· ≠ '\x7d')) (l := inside)
        rw [hdrop, hbrace] at hsplit
        refine ⟨_, .braced hne hchars, ?_⟩
        rw [List.cons_append, List.append_assoc, List.singleton_append, hsplit]
      · cases h
  · -- the longest name, which is a form of its own
    dsimp only at h
    split at h
    · cases h
    · rename_i hne
      cases h
      refine ⟨cs.takeWhile isNameChar, .bare ?_ fun c hc => List.mem_takeWhile_imp hc, ?_⟩
      · rintro hnil
        rw [hnil] at hne
        exact hne rfl
      · rw [List.takeWhile_append_dropWhile]

/-- Where the reader finds no token behind a `$`, none starts at it. -/
theorem stray_of_afterDollar {cs : List Char} {stray : Stray} (h : afterDollar cs = .error stray) :
    ∀ piece, IsToken piece → ¬ piece <+: '$' :: cs := by
  rintro piece hpiece ⟨rest, hrest⟩
  have hdollar : ∀ {tail : List Char}, IsToken ('$' :: tail) → '$' :: tail ++ rest ≠ '$' :: cs := by
    intro tail htail heq
    obtain ⟨t, after, hafter, -⟩ := exists_afterDollar htail rest
    rw [show tail ++ rest = cs from (List.cons.inj heq).2, h] at hafter
    cases hafter
  cases hpiece with
  | plain hne => exact hne (List.cons.inj hrest).1
  | escape hc => exact hdollar (.escape hc) hrest
  | braced hne hname => exact hdollar (.braced hne hname) hrest
  | bare hne hname => exact hdollar (.bare hne hname) hrest

/-- **Every text is made of tokens or breaks.** -/
theorem madeOfTokens_or_breaksAt (cs : List Char) :
    MadeOfTokens cs ∨ ∃ before after, BreaksAt cs before after := by
  induction cs using tokens.induct with
  | case1 => exact .inl madeOfTokens_nil
  | case2 rest stray hstray =>
    exact .inr ⟨[], rest, rfl, madeOfTokens_nil, stray_of_afterDollar hstray⟩
  | case3 rest t after hafter ih =>
    obtain ⟨piece, hpiece, rfl⟩ := isToken_of_afterDollar hafter
    rcases ih with hmade | ⟨before, later, hbreaks⟩
    · exact .inl (hmade.cons hpiece)
    · exact .inr ⟨_, later, hbreaks.cons hpiece⟩
  | case4 c rest hc ih =>
    rcases ih with hmade | ⟨before, later, hbreaks⟩
    · exact .inl (hmade.cons (.plain hc))
    · exact .inr ⟨_, later, hbreaks.cons (.plain hc)⟩

/-- What is wrong behind a `$` that starts no token. -/
def strayKind (after : List Char) : Stray :=
  if after.head? = some '\x7b' then .brace else .dollar

theorem strayKind_of_afterDollar {cs : List Char} {stray : Stray}
    (h : afterDollar cs = .error stray) : stray = strayKind cs := by
  unfold afterDollar at h
  split at h
  · cases h
  · cases h
  · cases h
  · dsimp only at h
    split at h
    · cases h
      rfl
    · split at h
      · cases h
      · cases h
        rfl
  · rename_i hbrace
    dsimp only at h
    split at h
    · cases h
      rw [strayKind, if_neg]
      intro hhead
      obtain ⟨more, rfl⟩ := List.head?_eq_some_iff.1 hhead
      exact hbrace more rfl
    · cases h

/-- **The reader stops where the text breaks.** -/
theorem BreaksAt.stop?_eq {cs before after : List Char} (h : BreaksAt cs before after) :
    stop? cs = some (strayKind after, '$' :: after) := by
  rw [h.split, h.sound.stop?_append]
  cases hafter : afterDollar after with
  | error stray => rw [stop?_dollar_of_error hafter, strayKind_of_afterDollar hafter]
  | ok result =>
    -- the reader would have found a token, which starts at the `$`
    obtain ⟨piece, hpiece, hsplit⟩ := isToken_of_afterDollar hafter
    exact absurd ⟨result.2, by rw [hsplit, List.cons_append]⟩ (h.stray _ hpiece)

theorem BreaksAt.unique {cs before after before' after' : List Char} (h : BreaksAt cs before after)
    (h' : BreaksAt cs before' after') : before' = before ∧ after' = after := by
  have hstop := h.stop?_eq.symm.trans h'.stop?_eq
  obtain rfl := (List.cons.inj (Prod.mk.inj (Option.some.inj hstop)).2).2
  exact ⟨List.append_cancel_right (h'.split.symm.trans h.split), rfl⟩

/-! ### What is read -/

theorem read_of_newline {text : String} (h : '\n' ∈ text.toList) : read text = .error (.multiline text) := by
  rw [read]
  simp [h]

theorem exists_read_of_madeOfTokens {text : String} (hline : '\n' ∉ text.toList)
    (h : MadeOfTokens text.toList) : ∃ t, read text = .ok t := by
  have hstop := h.stop?_eq_none
  rw [stop?] at hstop
  split at hstop
  · rename_i ts htokens
    refine ⟨⟨segmentsOf ts⟩, ?_⟩
    rw [read]
    simp [hline, htokens]
  · cases hstop

/-- A line that breaks is refused at the break. -/
theorem read_of_breaksAt {text : String} (hline : '\n' ∉ text.toList) {before after : List Char}
    (h : BreaksAt text.toList before after) :
    read text = .error
      (if after.head? = some '\x7b' then .malformedBrace text (String.ofList before).utf8ByteSize
      else .danglingDollar text (String.ofList before).utf8ByteSize) := by
  have hstop := h.stop?_eq
  rw [stop?] at hstop
  split at hstop
  · cases hstop
  · rename_i stop htokens
    cases hstop
    have hposition : Utf8.size text.toList - Utf8.size ('$' :: after) =
        (String.ofList before).utf8ByteSize := by
      rw [h.split, Utf8.size_append, Nat.add_sub_cancel, Utf8.size_eq_utf8ByteSize]
    have hnewline : text.toList.contains '\n' = false := by simpa using hline
    rw [read]
    simp only [hnewline, htokens, hposition, strayKind]
    by_cases hbrace : after.head? = some '\x7b'
    · simp only [if_pos hbrace]
      rfl
    · simp only [if_neg hbrace]
      rfl

/-- **What the reader makes of a text.** A text of several lines is refused as such. A line is read
exactly if it is made of tokens. A line that is not made of tokens falls in exactly one way into a part
that is, a `$` that starts no token and the rest, and it is refused with the length of that part in bytes:
as a malformed brace if a brace follows the `$`, and as a stray `$` otherwise. -/
theorem read_outcome (text : String) :
    (read text = .error (.multiline text) ↔ '\n' ∈ text.toList) ∧
    ('\n' ∉ text.toList →
      ((∃ t, read text = .ok t) ↔ MadeOfTokens text.toList) ∧
      (¬ MadeOfTokens text.toList → ∃ before after,
        BreaksAt text.toList before after ∧
        (∀ before' after', BreaksAt text.toList before' after' →
          before' = before ∧ after' = after) ∧
        read text = .error
          (if after.head? = some '\x7b' then
            .malformedBrace text (String.ofList before).utf8ByteSize
          else .danglingDollar text (String.ofList before).utf8ByteSize))) := by
  by_cases hline : '\n' ∈ text.toList
  · exact ⟨⟨fun _ => hline, read_of_newline⟩, fun hnot => absurd hline hnot⟩
  rcases madeOfTokens_or_breaksAt text.toList with hmade | ⟨before, after, hbreaks⟩
  · obtain ⟨t, ht⟩ := exists_read_of_madeOfTokens hline hmade
    refine ⟨⟨fun hread => ?_, read_of_newline⟩,
      fun _ => ⟨⟨fun _ => hmade, fun _ => ⟨t, ht⟩⟩, fun hnot => absurd hmade hnot⟩⟩
    rw [ht] at hread
    cases hread
  · have herror := read_of_breaksAt hline hbreaks
    refine ⟨⟨fun hread => ?_, read_of_newline⟩,
      fun _ => ⟨⟨?_, exists_read_of_madeOfTokens hline⟩,
        fun _ => ⟨before, after, hbreaks, fun _ _ => hbreaks.unique, herror⟩⟩⟩
    · rw [herror] at hread
      split at hread
      · cases hread
      · cases hread
    · rintro ⟨t, ht⟩
      rw [herror] at ht
      cases ht

end Template

end BuildPlan
