import BuildPlan.Proofs.Text.Scanning
import Mathlib.Tactic.SplitIfs
import Mathlib.Data.List.Basic

/-!
# Bytes that are text

Bytes are text if they are the encoding of some text. Reading them one by one finds this out: it accepts
exactly the encodings, and it gives back the text that was encoded.

* `Completes` — what ends a sequence under way: so many bytes more, the first of them within its limits.
* `scanFrom_of_completes`, `exists_completes` — such bytes are read to the end of the sequence, and where
  nothing is malformed the bytes that come next are such bytes.
* `lead_eq`, `opens_cases` — lead bytes by their number, and what they open.
* `encodeChar_of_completes`, `exists_lead` — a lead byte and what completes it are the encoding of a
  character, and every encoding of more than one byte is one of these.
* **`decode_eq_some_iff`** — bytes are read as a text exactly if they are its encoding.
* `IsUtf8` — bytes that are some text; `isUtf8_append_cons_iff` cuts them at an ASCII byte.
-/

namespace BuildPlan

namespace Utf8

/-! ### Sequences under way -/

/-- The bytes end the sequence under way, with a number for the character that it stands for. -/
inductive Completes : Pending → List UInt8 → Nat → Prop
  /-- The one byte that is missing. -/
  | last {value : Nat} {low high b : UInt8} (range : low ≤ b ∧ b ≤ high) :
      Completes ⟨value, 0, low, high⟩ [b] (value * 64 + (b.toNat - 0x80))
  /-- A byte with more to come. -/
  | more {value later n : Nat} {low high b : UInt8} {bytes : List UInt8} (range : low ≤ b ∧ b ≤ high)
      (rest : Completes ⟨value * 64 + (b.toNat - 0x80), later, 0x80, 0xBF⟩ bytes n) :
      Completes ⟨value, later + 1, low, high⟩ (b :: bytes) n

/-- **A sequence under way is read to its end.** -/
theorem scanFrom_of_completes {p : Pending} {bytes : List UInt8} {n : Nat} (h : Completes p bytes n)
    (rest : List UInt8) :
    scanFrom (some p) (bytes ++ rest) = some (Char.ofNat n) :: scanFrom none rest := by
  induction h with
  | last hrange =>
    rw [List.singleton_append, scanFrom, if_pos hrange]
    rfl
  | more hrange hrest ih =>
    rw [List.cons_append, scanFrom, if_pos hrange]
    exact ih

/-- Where a byte does not go on with a sequence, something is malformed. -/
theorem scanFrom_of_not_range {p : Pending} {b : UInt8} (h : ¬ (p.low ≤ b ∧ b ≤ p.high))
    (bs : List UInt8) : none ∈ scanFrom (some p) (b :: bs) := by
  rw [scanFrom, if_neg h]
  split <;> exact List.mem_cons_self

/-- **If nothing is malformed, what comes next ends the sequence.** -/
theorem exists_completes {p : Pending} {bytes : List UInt8} (h : none ∉ scanFrom (some p) bytes) :
    ∃ front rest n, bytes = front ++ rest ∧ Completes p front n := by
  induction bytes generalizing p with
  | nil => exact absurd List.mem_cons_self h
  | cons b bs ih =>
    by_cases hrange : p.low ≤ b ∧ b ≤ p.high
    · obtain ⟨value, later, low, high⟩ := p
      cases later with
      | zero => exact ⟨[b], bs, _, rfl, .last hrange⟩
      | succ later =>
        rw [scanFrom, if_pos hrange] at h
        obtain ⟨front, rest, n, rfl, hfront⟩ := ih h
        exact ⟨b :: front, rest, n, rfl, .more hrange hfront⟩
    · exact absurd (scanFrom_of_not_range hrange bs) h

/-! ### Lead bytes -/

/-- Lead bytes by their number. -/
theorem lead_eq (b : UInt8) :
    lead b =
      if b.toNat < 0x80 then .whole (Char.ofNat b.toNat)
      else if b.toNat < 0xC2 then .malformed
      else if b.toNat < 0xE0 then .opens ⟨b.toNat - 0xC0, 0, 0x80, 0xBF⟩
      else if b.toNat < 0xF0 then
        .opens ⟨b.toNat - 0xE0, 1, if b.toNat = 0xE0 then 0xA0 else 0x80,
          if b.toNat = 0xED then 0x9F else 0xBF⟩
      else if b.toNat < 0xF5 then
        .opens ⟨b.toNat - 0xF0, 2, if b.toNat = 0xF0 then 0x90 else 0x80,
          if b.toNat = 0xF4 then 0x8F else 0xBF⟩
      else .malformed := by
  have hlt : ∀ {c : UInt8}, b < c ↔ b.toNat < c.toNat := UInt8.lt_iff_toNat_lt
  have heq : ∀ {c : UInt8}, b = c ↔ b.toNat = c.toNat := UInt8.toNat_inj.symm
  rw [lead]
  simp only [hlt, heq, UInt8.reduceToNat]
  generalize b.toNat = n
  grind

/-- What a lead byte opens, by the number of bytes after it. -/
theorem opens_cases {b : UInt8} {p : Pending} (h : lead b = .opens p) :
    (0xC2 ≤ b.toNat ∧ b.toNat < 0xE0) ∧ p = ⟨b.toNat - 0xC0, 0, 0x80, 0xBF⟩ ∨
    (0xE0 ≤ b.toNat ∧ b.toNat < 0xF0) ∧
      p = ⟨b.toNat - 0xE0, 1, if b.toNat = 0xE0 then 0xA0 else 0x80,
        if b.toNat = 0xED then 0x9F else 0xBF⟩ ∨
    (0xF0 ≤ b.toNat ∧ b.toNat < 0xF5) ∧
      p = ⟨b.toNat - 0xF0, 2, if b.toNat = 0xF0 then 0x90 else 0x80,
        if b.toNat = 0xF4 then 0x8F else 0xBF⟩ := by
  rw [lead_eq] at h
  split at h
  · cases h
  split at h
  · cases h
  split at h
  · exact .inl ⟨by omega, (Lead.opens.inj h).symm⟩
  split at h
  · exact .inr (.inl ⟨by omega, (Lead.opens.inj h).symm⟩)
  split at h
  · exact .inr (.inr ⟨by omega, (Lead.opens.inj h).symm⟩)
  · cases h

/-! ### Characters -/

theorem range_iff {low high b : UInt8} :
    (low ≤ b ∧ b ≤ high) ↔ low.toNat ≤ b.toNat ∧ b.toNat ≤ high.toNat := by
  rw [UInt8.le_iff_toNat_le, UInt8.le_iff_toNat_le]

theorem ofNat_eq_of_toNat {b : UInt8} {k : Nat} (h : k = b.toNat) : UInt8.ofNat k = b := by
  rw [h, UInt8.ofNat_toNat]

theorem toNat_val_ofNat {n : Nat} (h : n.isValidChar) : (Char.ofNat n).val.toNat = n := by
  rw [Char.ofNat, dif_pos h]
  rfl

section

variable {b b1 b2 b3 : UInt8}

theorem encodeChar_two (hb : 0xC2 ≤ b.toNat ∧ b.toNat < 0xE0) (h1 : 0x80 ≤ b1.toNat ∧ b1.toNat ≤ 0xBF) :
    String.utf8EncodeChar (Char.ofNat ((b.toNat - 0xC0) * 64 + (b1.toNat - 0x80))) = [b, b1] := by
  rw [String.utf8EncodeChar, toNat_val_ofNat (.inl (by omega)), if_neg (by omega), if_pos (by omega),
    ofNat_eq_of_toNat (b := b) (by omega), ofNat_eq_of_toNat (b := b1) (by omega)]

theorem encodeChar_three (hb : 0xE0 ≤ b.toNat ∧ b.toNat < 0xF0)
    (h1 : (if b.toNat = 0xE0 then 0xA0 else 0x80) ≤ b1.toNat ∧
      b1.toNat ≤ if b.toNat = 0xED then 0x9F else 0xBF)
    (h2 : 0x80 ≤ b2.toNat ∧ b2.toNat ≤ 0xBF) :
    String.utf8EncodeChar (Char.ofNat (((b.toNat - 0xE0) * 64 + (b1.toNat - 0x80)) * 64 +
      (b2.toNat - 0x80))) = [b, b1, b2] := by
  have hvalid : (((b.toNat - 0xE0) * 64 + (b1.toNat - 0x80)) * 64 + (b2.toNat - 0x80)).isValidChar := by
    unfold Nat.isValidChar
    split_ifs at h1 <;> omega
  have hrange : 0x80 ≤ b1.toNat ∧ b1.toNat ≤ 0xBF ∧ (b.toNat = 0xE0 → 0xA0 ≤ b1.toNat) := by
    split_ifs at h1 <;> omega
  rw [String.utf8EncodeChar, toNat_val_ofNat hvalid, if_neg (by omega), if_neg (by omega),
    if_pos (by omega), ofNat_eq_of_toNat (b := b) (by omega), ofNat_eq_of_toNat (b := b1) (by omega),
    ofNat_eq_of_toNat (b := b2) (by omega)]

theorem encodeChar_four (hb : 0xF0 ≤ b.toNat ∧ b.toNat < 0xF5)
    (h1 : (if b.toNat = 0xF0 then 0x90 else 0x80) ≤ b1.toNat ∧
      b1.toNat ≤ if b.toNat = 0xF4 then 0x8F else 0xBF)
    (h2 : 0x80 ≤ b2.toNat ∧ b2.toNat ≤ 0xBF) (h3 : 0x80 ≤ b3.toNat ∧ b3.toNat ≤ 0xBF) :
    String.utf8EncodeChar (Char.ofNat ((((b.toNat - 0xF0) * 64 + (b1.toNat - 0x80)) * 64 +
      (b2.toNat - 0x80)) * 64 + (b3.toNat - 0x80))) = [b, b1, b2, b3] := by
  have hvalid : ((((b.toNat - 0xF0) * 64 + (b1.toNat - 0x80)) * 64 + (b2.toNat - 0x80)) * 64 +
      (b3.toNat - 0x80)).isValidChar := by
    unfold Nat.isValidChar
    split_ifs at h1 <;> omega
  have hrange : 0x80 ≤ b1.toNat ∧ b1.toNat ≤ 0xBF ∧ (b.toNat = 0xF0 → 0x90 ≤ b1.toNat) := by
    split_ifs at h1 <;> omega
  rw [String.utf8EncodeChar, toNat_val_ofNat hvalid, if_neg (by omega), if_neg (by omega),
    if_neg (by omega), ofNat_eq_of_toNat (b := b) (by omega), ofNat_eq_of_toNat (b := b1) (by omega),
    ofNat_eq_of_toNat (b := b2) (by omega), ofNat_eq_of_toNat (b := b3) (by omega)]

/-- **A lead byte and what completes it are the encoding of a character.** -/
theorem encodeChar_of_completes {p : Pending} {bytes : List UInt8} {n : Nat}
    (hlead : lead b = .opens p) (h : Completes p bytes n) :
    String.utf8EncodeChar (Char.ofNat n) = b :: bytes := by
  -- the bits so far stay a variable, or else they are computed where the sequences are matched
  rcases opens_cases hlead with ⟨hb, rfl⟩ | ⟨hb, rfl⟩ | ⟨hb, rfl⟩
  · generalize hvalue : b.toNat - 0xC0 = value at h
    cases h with
    | last h1 =>
      rw [← hvalue]
      exact encodeChar_two hb (range_iff.1 h1)
  · generalize hvalue : b.toNat - 0xE0 = value at h
    cases h with
    | @more _ _ _ _ _ b1 _ h1 hrest =>
      have h1 := range_iff.1 h1
      simp only [apply_ite UInt8.toNat] at h1
      generalize hvalue' : value * 64 + (b1.toNat - 0x80) = value' at hrest
      cases hrest with
      | last h2 =>
        rw [← hvalue', ← hvalue]
        exact encodeChar_three hb h1 (range_iff.1 h2)
  · generalize hvalue : b.toNat - 0xF0 = value at h
    cases h with
    | @more _ _ _ _ _ b1 _ h1 hrest =>
      have h1 := range_iff.1 h1
      simp only [apply_ite UInt8.toNat] at h1
      generalize hvalue' : value * 64 + (b1.toNat - 0x80) = value' at hrest
      cases hrest with
      | @more _ _ _ _ _ b2 _ h2 hrest =>
        generalize hvalue'' : value' * 64 + (b2.toNat - 0x80) = value'' at hrest
        cases hrest with
        | last h3 =>
          rw [← hvalue'', ← hvalue', ← hvalue]
          exact encodeChar_four hb h1 (range_iff.1 h2) (range_iff.1 h3)

end

theorem exists_toNat_eq {k : Nat} (h : k < 256) : ∃ b : UInt8, b.toNat = k :=
  ⟨UInt8.ofNat k, by rw [UInt8.toNat_ofNat']; exact Nat.mod_eq_of_lt h⟩

/-- Every number past ASCII that is a character has a lead byte, and bytes that complete it. -/
theorem exists_lead {v : Nat} (hvalid : v.isValidChar) (h : 0x80 ≤ v) :
    ∃ b p bytes, lead b = .opens p ∧ Completes p bytes v := by
  have hvalid : v < 0xD800 ∨ 0xDFFF < v ∧ v < 0x110000 := hvalid
  -- the last six bits are the last byte in each case
  obtain ⟨b3, hb3⟩ := exists_toNat_eq (k := v % 64 + 0x80) (by omega)
  have hrange : (0x80 : UInt8) ≤ b3 ∧ b3 ≤ 0xBF :=
    range_iff.2 (show 0x80 ≤ b3.toNat ∧ b3.toNat ≤ 0xBF by omega)
  by_cases htwo : v < 0x800
  · obtain ⟨b, hb⟩ := exists_toNat_eq (k := v / 64 + 0xC0) (by omega)
    have hv : v = (b.toNat - 0xC0) * 64 + (b3.toNat - 0x80) := by omega
    refine ⟨b, ⟨b.toNat - 0xC0, 0, 0x80, 0xBF⟩, [b3], ?_, ?_⟩
    · rw [lead_eq, if_neg (by omega), if_neg (by omega), if_pos (by omega)]
    · rw [hv]
      exact .last hrange
  obtain ⟨b2, hb2⟩ := exists_toNat_eq (k := v / 64 % 64 + 0x80) (by omega)
  have hrange' : (0x80 : UInt8) ≤ b2 ∧ b2 ≤ 0xBF :=
    range_iff.2 (show 0x80 ≤ b2.toNat ∧ b2.toNat ≤ 0xBF by omega)
  by_cases hthree : v < 0x10000
  · obtain ⟨b, hb⟩ := exists_toNat_eq (k := v / 4096 + 0xE0) (by omega)
    have hv : v = ((b.toNat - 0xE0) * 64 + (b2.toNat - 0x80)) * 64 + (b3.toNat - 0x80) := by omega
    refine ⟨b, ⟨b.toNat - 0xE0, 1, if b.toNat = 0xE0 then 0xA0 else 0x80,
      if b.toNat = 0xED then 0x9F else 0xBF⟩, [b2, b3], ?_, ?_⟩
    · rw [lead_eq, if_neg (by omega), if_neg (by omega), if_neg (by omega), if_pos (by omega)]
    · rw [hv]
      refine .more (range_iff.2 ?_) (.last hrange)
      simp only [apply_ite UInt8.toNat, UInt8.reduceToNat]
      split_ifs <;> omega
  · obtain ⟨b, hb⟩ := exists_toNat_eq (k := v / 262144 + 0xF0) (by omega)
    obtain ⟨b1, hb1⟩ := exists_toNat_eq (k := v / 4096 % 64 + 0x80) (by omega)
    have hv : v = (((b.toNat - 0xF0) * 64 + (b1.toNat - 0x80)) * 64 + (b2.toNat - 0x80)) * 64 +
        (b3.toNat - 0x80) := by omega
    refine ⟨b, ⟨b.toNat - 0xF0, 2, if b.toNat = 0xF0 then 0x90 else 0x80,
      if b.toNat = 0xF4 then 0x8F else 0xBF⟩, [b1, b2, b3], ?_, ?_⟩
    · rw [lead_eq, if_neg (by omega), if_neg (by omega), if_neg (by omega), if_neg (by omega),
        if_pos (by omega)]
    · rw [hv]
      refine .more (range_iff.2 ?_) (.more hrange' (.last hrange))
      simp only [apply_ite UInt8.toNat, UInt8.reduceToNat]
      split_ifs <;> omega

/-! ### Texts -/

theorem encodeChar_ascii {b : UInt8} (h : b.toNat < 0x80) :
    String.utf8EncodeChar (Char.ofNat b.toNat) = [b] := by
  rw [String.utf8EncodeChar, toNat_val_ofNat (.inl (by omega)), if_pos (by omega),
    ofNat_eq_of_toNat rfl]

theorem toNat_lt_of_whole {b : UInt8} {c : Char} (h : lead b = .whole c) : b.toNat < 0x80 := by
  rw [lead_eq] at h
  split_ifs at h with hb
  exact hb

/-- **A character is read back from its encoding.** -/
theorem scan_encodeChar (c : Char) (rest : List UInt8) :
    scan (String.utf8EncodeChar c ++ rest) = some c :: scan rest := by
  by_cases hascii : c.toNat < 0x80
  · obtain ⟨b, hb⟩ := exists_toNat_eq (k := c.toNat) (by omega)
    have hc : Char.ofNat b.toNat = c := by rw [hb, Char.ofNat_toNat]
    have hcons := scan_append_cons (UInt8.lt_iff_toNat_lt.2 (show b.toNat < 0x80 by omega)) [] rest
    rw [← hc, encodeChar_ascii (by omega), List.singleton_append]
    exact hcons
  · obtain ⟨b, p, bytes, hlead, hbytes⟩ :=
      exists_lead (v := c.toNat) c.valid (Nat.not_lt.1 hascii)
    have hencode := encodeChar_of_completes hlead hbytes
    rw [Char.ofNat_toNat] at hencode
    rw [hencode, List.cons_append, scan, scanFrom, hlead]
    dsimp only
    rw [scanFrom_of_completes hbytes, Char.ofNat_toNat]
    rfl

theorem scan_encode (text : String) : scan (encode text) = text.toList.map some := by
  rw [encode]
  induction text.toList with
  | nil => rfl
  | cons c cs ih => rw [List.flatMap_cons, scan_encodeChar, ih, List.map_cons]

/-- **Bytes without a malformed run are the encoding of some characters.** -/
theorem exists_eq_flatMap {bytes : List UInt8} (h : none ∉ scan bytes) :
    ∃ cs : List Char, bytes = cs.flatMap String.utf8EncodeChar := by
  -- a character takes at least one byte, so what is left is shorter
  induction hlength : bytes.length using Nat.strongRecOn generalizing bytes with
  | ind length ih =>
    subst hlength
    have ih := fun {rest : List UInt8} hshort (h : none ∉ scan rest) => ih rest.length hshort h rfl
    cases bytes with
    | nil => exact ⟨[], rfl⟩
    | cons b bs =>
      rw [scan, scanFrom] at h
      cases hlead : lead b with
      | whole c =>
        rw [hlead] at h
        obtain ⟨cs, rfl⟩ := ih (Nat.lt_succ_self _) (List.not_mem_of_not_mem_cons h)
        refine ⟨Char.ofNat b.toNat :: cs, ?_⟩
        rw [List.flatMap_cons, encodeChar_ascii (toNat_lt_of_whole hlead), List.singleton_append]
      | opens p =>
        rw [hlead] at h
        obtain ⟨front, rest, n, rfl, hfront⟩ := exists_completes h
        have hrest : none ∉ scan rest := by
          dsimp only at h
          rw [scanFrom_of_completes hfront] at h
          exact List.not_mem_of_not_mem_cons h
        have hshort : rest.length < (b :: (front ++ rest)).length := by
          rw [List.length_cons, List.length_append]
          omega
        obtain ⟨cs, rfl⟩ := ih hshort hrest
        refine ⟨Char.ofNat n :: cs, ?_⟩
        rw [List.flatMap_cons, encodeChar_of_completes hlead hfront, List.cons_append]
      | malformed =>
        rw [hlead] at h
        exact absurd List.mem_cons_self h

/-- The bytes are text: they are the encoding of some text. -/
def IsUtf8 (bytes : List UInt8) : Prop := ∃ text, bytes = encode text

theorem isUtf8_iff {bytes : List UInt8} : IsUtf8 bytes ↔ none ∉ scan bytes := by
  constructor
  · rintro ⟨text, rfl⟩
    rw [scan_encode]
    simp
  · intro h
    obtain ⟨cs, rfl⟩ := exists_eq_flatMap h
    exact ⟨String.ofList cs, by rw [encode, String.toList_ofList]⟩

/-- **Around an ASCII byte, bytes are text if both parts are.** -/
theorem isUtf8_append_cons_iff {b : UInt8} (hb : b < 0x80) {xs ys : List UInt8} :
    IsUtf8 (xs ++ b :: ys) ↔ IsUtf8 xs ∧ IsUtf8 ys := by
  rw [isUtf8_iff, isUtf8_iff, isUtf8_iff, scan_append_cons hb]
  simp

theorem mapM_id_eq_some_iff {α : Type} {xs : List (Option α)} {ys : List α} :
    xs.mapM id = some ys ↔ xs = ys.map some := by
  induction xs generalizing ys with
  | nil => cases ys <;> simp
  | cons x xs ih =>
    rw [List.mapM_cons, Option.bind_eq_bind, Option.bind_eq_some_iff]
    simp only [Option.bind_eq_bind, Option.bind_eq_some_iff, ih, id_eq]
    cases ys <;> simp

/-- **Bytes are read as a text exactly if they are its encoding.** -/
theorem decode_eq_some_iff {bytes : List UInt8} {text : String} :
    decode bytes = some text ↔ bytes = encode text := by
  have hscan : decode bytes = some text ↔ scan bytes = text.toList.map some := by
    rw [decode, Option.map_eq_some_iff]
    constructor
    · rintro ⟨cs, hcs, rfl⟩
      rw [mapM_id_eq_some_iff.1 hcs, String.toList_ofList]
    · intro h
      exact ⟨text.toList, mapM_id_eq_some_iff.2 h, String.ofList_toList⟩
  rw [hscan]
  constructor
  · intro h
    obtain ⟨other, rfl⟩ := isUtf8_iff.2 (by rw [h]; simp)
    rw [scan_encode] at h
    rw [String.toList_inj.1 ((List.map_inj_right fun _ _ => Option.some.inj).1 h)]
  · rintro rfl
    exact scan_encode text

/-- A text is read back from its encoding. -/
theorem decode_encode (text : String) : decode (encode text) = some text :=
  decode_eq_some_iff.2 rfl

theorem decodeLossy_encode (text : String) : decodeLossy (encode text) = text := by
  rw [decodeLossy, scan_encode, List.map_map, ← String.toList_inj, String.toList_ofList]
  exact List.map_id _

theorem decode_eq_none_iff {bytes : List UInt8} : decode bytes = none ↔ ¬ IsUtf8 bytes := by
  rw [Option.eq_none_iff_forall_ne_some, IsUtf8, not_exists]
  simp only [ne_eq, decode_eq_some_iff]

theorem isSome_decode_iff {bytes : List UInt8} : (decode bytes).isSome = true ↔ IsUtf8 bytes := by
  rw [Option.isSome_iff_exists]
  simp only [decode_eq_some_iff]
  rfl

instance (bytes : List UInt8) : Decidable (IsUtf8 bytes) := decidable_of_iff _ isSome_decode_iff

theorem encode_append (front back : String) : encode (front ++ back) = encode front ++ encode back := by
  rw [encode, String.toList_append, List.flatMap_append]
  rfl

/-- Texts with the same encoding are the same. -/
theorem encode_inj {text other : String} : encode text = encode other ↔ text = other := by
  rw [← decode_eq_some_iff, decode_encode, Option.some.injEq, eq_comm]

/-- ASCII characters are their own encoding. -/
theorem encode_ascii {cs : List Char} (h : ∀ c ∈ cs, c.toNat < 0x80) :
    encode (String.ofList cs) = cs.map fun c => UInt8.ofNat c.toNat := by
  rw [encode, String.toList_ofList, List.flatMap_def, List.map_congr_left, ← List.flatMap_def,
    ← List.map_eq_flatMap]
  intro c hc
  have hsmall := h c hc
  rw [String.utf8EncodeChar, Char.toNat_val, if_pos (by omega)]

example : ¬ IsUtf8 [0xC0, 0x80] ∧ ¬ IsUtf8 [0xED, 0xA0, 0x80] ∧ IsUtf8 [0xF4, 0x8F, 0xBF, 0xBF] := by
  decide

end Utf8

end BuildPlan
