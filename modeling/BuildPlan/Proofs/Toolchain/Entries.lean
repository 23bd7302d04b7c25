import BuildPlan.Proofs.Path.Joining
import BuildPlan.Proofs.Text.Encoding
import BuildPlan.Proofs.Text.Words
import BuildPlan.Toolchain.SearchPath
import Mathlib.Data.List.Forall2

/-!
# Entries of a search path

A search path is cut at its colons and each entry is read for itself. So two search paths with a colon
between them are read one after the other, and an entry that is not text is passed over as if it were not
there, which the log tells. The one exception is that no bytes at all have no entry, where one might look
for one empty entry.

* `entries_append_cons`, `entries_intercalate`, `length_entries` — cutting at colons.
* `isUtf8_intercalate_iff` — bytes with colons between them are text exactly if all of them are.
* `StandsFor` — the directory of an entry; `forall₂_directories` says that the directories are those of
  the entries that are text, one for each.
* `mem_skipped_iff`, `pairwise_skipped` — the positions in the log are those of the other entries, in order.
* **`entries_apart`** — all this together; `no_directory_of_no_bytes` is the exception.
-/

namespace BuildPlan

namespace SearchPath

variable {raw : List UInt8} {workingDirectory : Option Path}

/-! ### Cutting at colons -/

theorem entries_of_ne_nil (h : raw ≠ []) : entries raw = raw.splitOn colon := by
  rw [entries, if_neg h]

/-- **Two search paths with a colon between them have the entries of both.** -/
theorem entries_append_cons {front back : List UInt8} (hfront : front ≠ []) (hback : back ≠ []) :
    entries (front ++ colon :: back) = entries front ++ entries back := by
  rw [entries_of_ne_nil (by simp), List.splitOn_append_cons_self, entries_of_ne_nil hfront,
    entries_of_ne_nil hback]

/-- Entries without colons are found again, unless there is only an empty one. -/
theorem entries_intercalate {es : List (List UInt8)} (h : ∀ e ∈ es, colon ∉ e) (hmany : 2 ≤ es.length) :
    entries ([colon].intercalate es) = es := by
  obtain ⟨first, second, rest, rfl⟩ : ∃ first second rest, es = first :: second :: rest := by
    match es, hmany with
    | first :: second :: rest, _ => exact ⟨first, second, rest, rfl⟩
  rw [entries_of_ne_nil, List.splitOn_intercalate colon h (by simp)]
  rw [List.intercalate_cons_cons]
  simp

theorem colon_notMem_of_mem_entries {e : List UInt8} (h : e ∈ entries raw) : colon ∉ e := by
  rw [entries] at h
  split at h
  · cases h
  · exact notMem_of_mem_splitOn h

theorem length_splitOn {α : Type} [BEq α] [LawfulBEq α] (sep : α) (xs : List α) :
    (xs.splitOn sep).length = xs.count sep + 1 := by
  rw [List.splitOn_eq_splitOnP]
  induction xs with
  | nil => rfl
  | cons x xs ih =>
    rw [List.splitOnP_cons_eq_if_modifyHead, List.count_cons]
    split
    · rw [List.length_cons, ih]
    · rw [List.length_modifyHead, ih]

theorem length_entries (h : raw ≠ []) : (entries raw).length = raw.count colon + 1 := by
  rw [entries_of_ne_nil h, length_splitOn]

/-- **Bytes with colons between them are text exactly if all of them are.** -/
theorem isUtf8_intercalate_iff {es : List (List UInt8)} :
    Utf8.IsUtf8 ([colon].intercalate es) ↔ ∀ e ∈ es, Utf8.IsUtf8 e := by
  induction es with
  | nil => exact ⟨fun _ => by simp, fun _ => ⟨"", rfl⟩⟩
  | cons e es ih =>
    cases es with
    | nil => simp
    | cons next rest =>
      rw [List.intercalate_cons_cons, List.append_assoc, List.singleton_append,
        Utf8.isUtf8_append_cons_iff (by decide), ih, List.forall_mem_cons (l := next :: rest)]

theorem isUtf8_of_mem_entries (h : Utf8.IsUtf8 raw) : ∀ e ∈ entries raw, Utf8.IsUtf8 e := by
  intro e he
  rw [entries] at he
  split at he
  · cases he
  · have hjoined : [colon].intercalate (raw.splitOn colon) = raw := List.intercalate_splitOn colon
    rw [← hjoined] at h
    exact isUtf8_intercalate_iff.1 h e he

/-! ### The directories -/

/-- The directory is that of the entry, which is text. -/
def StandsFor (workingDirectory : Option Path) (entry : List UInt8) (directory : Path) : Prop :=
  ∃ text, entry = Utf8.encode text ∧ directory = directoryOf workingDirectory text

/-- **The directories are those of the entries that are text, one for each and in order.** -/
theorem forall₂_directories (raw : List UInt8) (workingDirectory : Option Path) :
    List.Forall₂ (StandsFor workingDirectory) ((entries raw).filter Utf8.IsUtf8)
      (ofBytes raw workingDirectory).directories := by
  rw [ofBytes]
  induction entries raw with
  | nil => exact .nil
  | cons e es ih =>
    cases hdecode : Utf8.decode e with
    | none =>
      have hnot := Utf8.decode_eq_none_iff.1 hdecode
      rw [List.filter_cons_of_neg (by simpa using hnot), List.filterMap_cons_none (by rw [hdecode]; rfl)]
      exact ih
    | some text =>
      have htext := Utf8.decode_eq_some_iff.1 hdecode
      rw [List.filter_cons_of_pos (by simpa using ⟨text, htext⟩),
        List.filterMap_cons_some (by rw [hdecode]; rfl)]
      exact .cons ⟨text, htext, rfl⟩ ih

theorem isAbsolute_join {base : Path} (h : base.isAbsolute = true) (p : Path) :
    (base.join p).isAbsolute = true := by
  rw [Path.join]
  split
  · assumption
  · obtain ⟨cs, hcs⟩ : ∃ cs, base.text.toList = '/' :: cs := by
      rw [Path.isAbsolute, beq_iff_eq] at h
      exact List.head?_eq_some_iff.1 h
    split <;> simp [Path.isAbsolute, hcs]

/-- Seen from an absolute working directory, every directory is absolute. -/
theorem isAbsolute_of_mem_directories {base directory : Path} (hbase : base.isAbsolute = true)
    (h : directory ∈ (ofBytes raw (some base)).directories) : directory.isAbsolute = true := by
  obtain ⟨entry, -, hentry⟩ := List.mem_filterMap.1 h
  obtain ⟨text, -, rfl⟩ := Option.map_eq_some_iff.1 hentry
  exact isAbsolute_join hbase _

/-! ### The log -/

theorem mem_skipped_iff {i : Nat} :
    i ∈ skipped raw ↔ ∃ e, (entries raw)[i]? = some e ∧ ¬ Utf8.IsUtf8 e := by
  rw [skipped, List.mem_filterMap]
  simp only [Prod.exists, List.mk_mem_zipIdx_iff_getElem?, Option.isNone_iff_eq_none,
    Utf8.decode_eq_none_iff, Option.ite_none_right_eq_some, Option.some.injEq]
  constructor
  · rintro ⟨e, j, hj, hnot, rfl⟩
    exact ⟨e, hj, hnot⟩
  · rintro ⟨e, hi, hnot⟩
    exact ⟨e, i, hi, hnot, rfl⟩

/-- The positions in the log are in order, and none of them comes twice. -/
theorem pairwise_skipped (raw : List UInt8) : (skipped raw).Pairwise (· < ·) := by
  have horder : ((entries raw).zipIdx.map Prod.snd).Pairwise (· < ·) := by
    rw [List.zipIdx_map_snd]
    exact List.pairwise_lt_range' 1
  rw [List.pairwise_map] at horder
  rw [skipped, List.pairwise_filterMap]
  refine horder.imp ?_
  rintro ⟨e, i⟩ ⟨e', i'⟩ hlt j hj j' hj'
  cases (Option.ite_none_right_eq_some.1 hj).2
  cases (Option.ite_none_right_eq_some.1 hj').2
  exact hlt

/-- **Entries of a search path are read apart.** Two search paths with a colon between them give the
directories of both, one after the other. Seen from an absolute working directory all directories are
absolute. If there are any bytes and they are text, no entry is passed over and there is one directory more
than there are colons. In general the directories are those of the entries that are text, each by itself,
and the other entries are logged with their positions among all entries. -/
theorem entries_apart (workingDirectory : Option Path) :
    (∀ front back, front ≠ [] → back ≠ [] →
      (ofBytes (front ++ colon :: back) workingDirectory).directories =
        (ofBytes front workingDirectory).directories ++ (ofBytes back workingDirectory).directories) ∧
    (∀ base, workingDirectory = some base → base.isAbsolute = true → ∀ raw,
      ∀ directory ∈ (ofBytes raw workingDirectory).directories, directory.isAbsolute = true) ∧
    (∀ raw, raw ≠ [] → Utf8.IsUtf8 raw →
      (∀ e ∈ entries raw, Utf8.IsUtf8 e) ∧
        (ofBytes raw workingDirectory).directories.length = raw.count colon + 1) ∧
    ∀ raw,
      List.Forall₂ (StandsFor workingDirectory) ((entries raw).filter Utf8.IsUtf8)
        (ofBytes raw workingDirectory).directories ∧
      ∃ positions : List Nat, skippedEvents raw = positions.map skippedEvent ∧ positions.Pairwise (· < ·) ∧
        ∀ i, i ∈ positions ↔ ∃ e, (entries raw)[i]? = some e ∧ ¬ Utf8.IsUtf8 e := by
  refine ⟨?_, ?_, ?_, ?_⟩
  · intro front back hfront hback
    rw [ofBytes, entries_append_cons hfront hback, List.filterMap_append]
    rfl
  · rintro base rfl hbase raw directory hdirectory
    exact isAbsolute_of_mem_directories hbase hdirectory
  · intro raw hraw htext
    have hall := isUtf8_of_mem_entries htext
    refine ⟨hall, ?_⟩
    rw [← (forall₂_directories raw workingDirectory).length_eq,
      List.filter_eq_self.2 (by simpa using hall), length_entries hraw]
  · intro raw
    exact ⟨forall₂_directories raw workingDirectory, skipped raw, rfl, pairwise_skipped raw,
      fun i => mem_skipped_iff⟩

/-- Entries that are relative, empty, absolute and no text, seen from an absolute working directory. -/
theorem entries_apart_mixed :
    (ofBytes (Utf8.encode "tools:" ++ colon :: [0xFF, 0x3A, 0x2F, 0x62]) (some ⟨"/work"⟩)).directories =
        (ofBytes (Utf8.encode "tools:") (some ⟨"/work"⟩)).directories ++
          (ofBytes [0xFF, 0x3A, 0x2F, 0x62] (some ⟨"/work"⟩)).directories ∧
      (∀ directory ∈ (ofBytes [0xFF, 0x3A, 0x2F, 0x62] (some ⟨"/work"⟩)).directories,
        directory.isAbsolute = true) ∧
      (ofBytes (Utf8.encode "é::x") (some ⟨"/work"⟩)).directories.length = 3 := by
  obtain ⟨happend, habsolute, hcount, -⟩ := entries_apart (some ⟨"/work"⟩)
  refine ⟨happend _ _ (by decide) (by decide), habsolute ⟨"/work"⟩ rfl (by decide) _, ?_⟩
  exact (hcount _ (by decide) ⟨"é::x", rfl⟩).2

/-- **No bytes at all are text without a colon, but stand for no directory.** -/
theorem no_directory_of_no_bytes :
    Utf8.IsUtf8 [] ∧ ¬ (ofBytes [] none).directories.length = ([] : List UInt8).count colon + 1 := by
  decide

end SearchPath

end BuildPlan
