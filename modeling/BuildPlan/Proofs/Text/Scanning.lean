import BuildPlan.Text.Utf8

/-!
# Scanning past an ASCII byte

Bytes are read as UTF-8 one after the other, and a sequence under way decides what the next byte means.
An ASCII byte continues no sequence, so it always stands for itself and what comes after it is read as
if nothing had come before.

* `RejectsAscii` — the sequences under way, as far as they matter here: none of them goes on with an ASCII
  byte.
* **`scan_append_cons`** — bytes around an ASCII byte are read apart.
* `toList_decodeLossy_append_cons`, `toList_decodeLossy_ascii` — what this means for the text.
-/

namespace BuildPlan

namespace Utf8

/-- The sequence under way, if there is one, does not go on with an ASCII byte. -/
def RejectsAscii : Option Pending → Prop
  | none => True
  | some p => 0x80 ≤ p.low

/-- The sequence that a lead byte opens. -/
def Lead.opened? : Lead → Option Pending
  | .opens p => some p
  | _ => none

/-- What a lead byte opens does not go on with an ASCII byte. -/
theorem rejectsAscii_of_lead {b : UInt8} {p : Pending} (h : lead b = .opens p) :
    RejectsAscii (some p) := by
  have hlead : RejectsAscii (lead b).opened? := by
    rw [lead]
    repeat'
      refine iteInduction (motive := fun l : Lead => RejectsAscii l.opened?) (fun _ => ?_) (fun _ => ?_)
    all_goals
      dsimp only [Lead.opened?, RejectsAscii]
      try decide
  rw [h] at hlead
  exact hlead

theorem lead_ascii {b : UInt8} (hb : b < 0x80) : lead b = .whole (Char.ofNat b.toNat) := by
  rw [lead, if_pos hb]

/-- **What comes before an ASCII byte and what comes after it are read apart**, also where a sequence is
under way. -/
theorem scanFrom_append_cons {b : UInt8} (hb : b < 0x80) (ys : List UInt8) (state : Option Pending)
    (xs : List UInt8) (hstate : RejectsAscii state) :
    scanFrom state (xs ++ b :: ys) =
      scanFrom state xs ++ some (Char.ofNat b.toNat) :: scanFrom none ys := by
  induction xs generalizing state with
  | nil =>
    cases state with
    | none =>
      show scanFrom none (b :: ys) = some (Char.ofNat b.toNat) :: scanFrom none ys
      rw [scanFrom, lead_ascii hb]
    | some p =>
      have hout : ¬ (p.low ≤ b ∧ b ≤ p.high) := by
        rintro ⟨hlow, -⟩
        have hascii : 0x80 ≤ b := UInt8.le_trans hstate hlow
        exact absurd hb (UInt8.not_lt.2 hascii)
      show scanFrom (some p) (b :: ys) = none :: some (Char.ofNat b.toNat) :: scanFrom none ys
      rw [scanFrom, if_neg hout, lead_ascii hb]
  | cons x xs ih =>
    cases state with
    | none =>
      rw [List.cons_append, scanFrom, scanFrom]
      cases hlead : lead x with
      | whole c => exact congrArg _ (ih none trivial)
      | opens p => exact ih (some p) (rejectsAscii_of_lead hlead)
      | malformed => exact congrArg _ (ih none trivial)
    | some p =>
      rw [List.cons_append, scanFrom, scanFrom]
      split
      · dsimp only
        split
        · exact congrArg _ (ih none trivial)
        · exact ih _ (by decide : (0x80 : UInt8) ≤ 0x80)
      · cases hlead : lead x with
        | whole c => exact congrArg (none :: some c :: ·) (ih none trivial)
        | opens q => exact congrArg (none :: ·) (ih (some q) (rejectsAscii_of_lead hlead))
        | malformed => exact congrArg (none :: none :: ·) (ih none trivial)

theorem scan_append_cons {b : UInt8} (hb : b < 0x80) (xs ys : List UInt8) :
    scan (xs ++ b :: ys) = scan xs ++ some (Char.ofNat b.toNat) :: scan ys :=
  scanFrom_append_cons hb ys none xs trivial

theorem toList_decodeLossy_append_cons {b : UInt8} (hb : b < 0x80) (xs ys : List UInt8) :
    (decodeLossy (xs ++ b :: ys)).toList =
      (decodeLossy xs).toList ++ Char.ofNat b.toNat :: (decodeLossy ys).toList := by
  rw [decodeLossy, scan_append_cons hb, decodeLossy, decodeLossy]
  simp

/-- Bytes that are all ASCII are read one by one. -/
theorem scan_ascii {bytes : List UInt8} (h : ∀ b ∈ bytes, b < 0x80) :
    scan bytes = bytes.map fun b => some (Char.ofNat b.toNat) := by
  induction bytes with
  | nil => rfl
  | cons b bs ih =>
    have hrest := ih fun other hother => h other (List.mem_cons_of_mem b hother)
    have hcons := scan_append_cons (h b List.mem_cons_self) [] bs
    rw [List.nil_append] at hcons
    rw [hcons, hrest]
    rfl

theorem toList_decodeLossy_ascii {bytes : List UInt8} (h : ∀ b ∈ bytes, b < 0x80) :
    (decodeLossy bytes).toList = bytes.map fun b => Char.ofNat b.toNat := by
  rw [decodeLossy, scan_ascii h]
  simp

end Utf8

end BuildPlan
