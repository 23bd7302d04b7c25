import BuildPlan.Proofs.CommandLine.Values
import BuildPlan.Proofs.Text.Encoding
import Mathlib.Data.List.TakeWhile

/-!
# How options are spelled

Words are looked at byte by byte, but they are texts, and what they mean can be said of the texts. A text
is spelled like an option, or it is `--`, or it is neither, and each of these reads as one would expect.

* `IsOption` — the spellings of options: a long name, a long name with a value, and a cluster of letters.
* `IsPlain` — all other texts apart from `--`.
* `reading_bare`, `reading_attached`, `reading_cluster`, **`reading_of_isPlain`** — how they read.
* `spelling_cases` — there is nothing else.
-/

namespace BuildPlan

namespace CommandLine

/-- The text is spelled like an option. -/
inductive IsOption : String → Prop
  /-- The long name of an option. -/
  | bare {name : String} {o : AnyOption} (known : (name, o) ∈ longNames) : IsOption ("--" ++ name)
  /-- The long name of an option, with a value attached to it. -/
  | attached {name value : String} {o : AnyOption} (known : (name, o) ∈ longNames) :
      IsOption ("--" ++ name ++ "=" ++ value)
  /-- Letters of short options. -/
  | cluster {letters : List Char} (nonempty : letters ≠ []) (known : ∀ c ∈ letters, c ∈ shortLetters) :
      IsOption (String.ofList ('-' :: letters))

/-- The text is neither spelled like an option nor the separator. -/
def IsPlain (text : String) : Prop := text ≠ "--" ∧ ¬ IsOption text

/-- A text is plain, or it is the separator, or it is spelled like an option. -/
theorem spelling_cases (text : String) : IsPlain text ∨ text = "--" ∨ IsOption text := by
  by_cases hseparator : text = "--"
  · exact .inr (.inl hseparator)
  · by_cases hoption : IsOption text
    · exact .inr (.inr hoption)
    · exact .inl ⟨hseparator, hoption⟩

/-! ### Bytes of words -/

theorem reading_long {bytes : List UInt8} (h : bytes ≠ []) :
    reading ⟨dash :: dash :: bytes⟩ = longReading bytes := by
  simp [reading, h]

theorem reading_short {b : UInt8} (h : b ≠ dash) (bytes : List UInt8) :
    reading ⟨dash :: b :: bytes⟩ = shortReading (b :: bytes) := by
  simp [reading, h]

theorem encode_long (text : String) : Utf8.encode ("--" ++ text) = dash :: dash :: Utf8.encode text := by
  rw [Utf8.encode_append]
  rfl

theorem encode_assignment (name value : String) :
    Utf8.encode (name ++ "=" ++ value) = Utf8.encode name ++ equals :: Utf8.encode value := by
  rw [Utf8.encode_append, Utf8.encode_append, List.append_assoc]
  rfl

/-- A name and a value are taken apart at the first equals sign. -/
theorem takeWhile_assignment {name : List UInt8} (h : equals ∉ name) (value : List UInt8) :
    (name ++ equals :: value).takeWhile (· ≠ equals) = name ∧
      (name ++ equals :: value).dropWhile (· ≠ equals) = equals :: value := by
  have hname : ∀ b ∈ name, decide (b ≠ equals) = true := by
    intro b hb
    exact decide_eq_true fun heq => h (heq ▸ hb)
  rw [List.takeWhile_append_of_pos hname, List.dropWhile_append_of_pos hname]
  simp

/-! ### Options -/

theorem reading_separator : reading (.ofText "--") = .separator := by decide

section

variable {name : String} {o : AnyOption}

theorem reading_bare (known : (name, o) ∈ longNames) :
    reading (.ofText ("--" ++ name)) = .long o none := by
  have hall : ∀ entry ∈ longNames, reading (.ofText ("--" ++ entry.1)) = .long entry.2 none := by decide
  exact hall (name, o) known

theorem reading_attached (known : (name, o) ∈ longNames) (value : String) :
    reading (.ofText ("--" ++ name ++ "=" ++ value)) = .long o (some (.ofText value)) := by
  have hall : ∀ entry ∈ longNames,
      longNames.lookup entry.1 = some entry.2 ∧ equals ∉ Utf8.encode entry.1 := by decide
  obtain ⟨hlookup, hfree⟩ := hall (name, o) known
  obtain ⟨htake, hdrop⟩ := takeWhile_assignment hfree (Utf8.encode value)
  have htext : "--" ++ name ++ "=" ++ value = "--" ++ (name ++ "=" ++ value) := by
    simp only [String.append_assoc]
  rw [Word.ofText, htext, encode_long, encode_assignment, reading_long (by simp), longReading]
  simp only [htake, hdrop, Utf8.decode_encode, hlookup]
  rfl

end

theorem byte_of_mem_shortLetters {c : Char} (h : c ∈ shortLetters) :
    c.toNat < 0x80 ∧ Char.ofNat (UInt8.ofNat c.toNat).toNat = c ∧ UInt8.ofNat c.toNat ≠ dash := by
  revert c
  simp only [shortLetters, List.mem_cons, List.not_mem_nil, or_false, forall_eq_or_imp, forall_eq]
  decide

theorem reading_cluster {letters : List Char} (nonempty : letters ≠ [])
    (known : ∀ c ∈ letters, c ∈ shortLetters) :
    reading (.ofText (String.ofList ('-' :: letters))) = .cluster letters := by
  have hascii : ∀ c ∈ '-' :: letters, c.toNat < 0x80 :=
    List.forall_mem_cons.2 ⟨by decide, fun c hc => (byte_of_mem_shortLetters (known c hc)).1⟩
  have hletters : (letters.map fun c => UInt8.ofNat c.toNat).map (fun b => Char.ofNat b.toNat) =
      letters := by
    rw [List.map_map]
    exact (List.map_congr_left fun c hc => (byte_of_mem_shortLetters (known c hc)).2.1).trans
      (List.map_id letters)
  have hall : letters.all shortLetters.contains = true := by simpa using known
  obtain ⟨first, rest, rfl⟩ := List.exists_cons_of_ne_nil nonempty
  have hfirst := (byte_of_mem_shortLetters (known first List.mem_cons_self)).2.2
  rw [Word.ofText, Utf8.encode_ascii hascii, List.map_cons, List.map_cons]
  show reading ⟨dash :: UInt8.ofNat first.toNat :: _⟩ = _
  rw [reading_short hfirst, ← List.map_cons (f := fun c : Char => UInt8.ofNat c.toNat), shortReading]
  simp only [hletters, hall]
  rfl

/-! ### Everything else -/

theorem mem_longNames_of_lookup {name : String} {o : AnyOption} (h : longNames.lookup name = some o) :
    (name, o) ∈ longNames := by
  obtain ⟨before, after, hsplit, -⟩ := List.lookup_eq_some_iff.1 h
  rw [hsplit]
  exact List.mem_append_right before List.mem_cons_self

/-- After two dashes, what has no name of an option reads as nothing special. -/
theorem longReading_of_isPlain {rest : String} (h : ¬ IsOption ("--" ++ rest)) :
    longReading (Utf8.encode rest) = .other := by
  by_cases hequals : equals ∈ Utf8.encode rest
  · obtain ⟨front, back, hsplit, hfree⟩ := List.eq_append_cons_of_mem hequals
    obtain ⟨⟨name, rfl⟩, value, rfl⟩ :=
      (Utf8.isUtf8_append_cons_iff (b := equals) (by decide)).1 ⟨rest, hsplit.symm⟩
    rw [← encode_assignment, Utf8.encode_inj] at hsplit
    obtain ⟨htake, hdrop⟩ := takeWhile_assignment hfree (Utf8.encode value)
    rw [hsplit, encode_assignment, longReading]
    simp only [htake, hdrop, Utf8.decode_encode]
    cases hlookup : longNames.lookup name with
    | none => rfl
    | some o =>
      rw [hsplit, ← String.append_assoc, ← String.append_assoc] at h
      exact absurd (.attached (mem_longNames_of_lookup hlookup)) h
  · have htake : (Utf8.encode rest).takeWhile (· ≠ equals) = Utf8.encode rest := by
      rw [List.takeWhile_eq_self_iff]
      exact fun b hb => decide_eq_true fun heq => hequals (heq ▸ hb)
    rw [longReading]
    simp only [htake, Utf8.decode_encode]
    cases hlookup : longNames.lookup rest with
    | none => rfl
    | some o => exact absurd (.bare (mem_longNames_of_lookup hlookup)) h

/-- After one dash, what is no cluster reads as nothing special. -/
theorem shortReading_of_isPlain {text : String} {bytes : List UInt8}
    (hbytes : Utf8.encode text = dash :: bytes) (h : ¬ IsOption text) : shortReading bytes = .other := by
  unfold shortReading
  dsimp only
  split
  · rfl
  rename_i hnonempty
  split
  · rename_i hall
    have hknown : ∀ b ∈ bytes, Char.ofNat b.toNat ∈ shortLetters := by simpa using hall
    -- the letters are ASCII, so the bytes are the text
    have hascii : ∀ b ∈ dash :: bytes, b < 0x80 :=
      List.forall_mem_cons.2 ⟨by decide, fun b hb => ascii_of_mem_shortLetters (hknown b hb)⟩
    have htext := Utf8.toList_decodeLossy_ascii hascii
    rw [← hbytes, Utf8.decodeLossy_encode, hbytes, List.map_cons] at htext
    rw [← String.ofList_toList (s := text), htext] at h
    refine absurd (.cluster (by simpa using hnonempty) ?_) h
    simpa using hknown
  · rfl

/-- **A plain text reads as nothing special.** -/
theorem reading_of_isPlain {text : String} (h : IsPlain text) : reading (.ofText text) = .other := by
  obtain ⟨hseparator, hoption⟩ := h
  rw [Word.ofText]
  generalize hbytes : Utf8.encode text = bytes
  rcases bytes with _ | ⟨first, _ | ⟨second, bytes⟩⟩
  · rfl
  · simp [reading]
  by_cases hfirst : first = dash
  · subst hfirst
    by_cases hsecond : second = dash
    · subst hsecond
      have htext : Utf8.IsUtf8 ([dash] ++ dash :: bytes) := ⟨text, hbytes.symm⟩
      obtain ⟨-, rest, rfl⟩ := (Utf8.isUtf8_append_cons_iff (by decide)).1 htext
      rw [← encode_long, Utf8.encode_inj] at hbytes
      rw [hbytes] at hseparator hoption
      have hrest : Utf8.encode rest ≠ [] := by
        intro hnil
        have hempty : rest = "" := Utf8.encode_inj.1 hnil
        exact hseparator (by rw [hempty]; rfl)
      rw [reading_long hrest]
      exact longReading_of_isPlain hoption
    · rw [reading_short hsecond]
      exact shortReading_of_isPlain hbytes hoption
  · simp [reading, hfirst]

end CommandLine

end BuildPlan
