/-!
# Outcomes of several stages

What is done in stages succeeds only if every stage does, and fails if one of them fails. These lemmas
take a success or a failure apart, stage by stage, so that nothing else has to look into how outcomes are
put together.
-/

namespace BuildPlan

section

variable {ε ε' α β : Type}

/-- What succeeds in two stages succeeds in both. -/
theorem exists_of_bind_eq_ok {x : Except ε α} {f : α → Except ε β} {b : β} (h : x >>= f = .ok b) :
    ∃ a, x = .ok a ∧ f a = .ok b := by
  cases x with
  | error fault => cases h
  | ok a => exact ⟨a, rfl, h⟩

/-- A second stage may be replaced by another one that succeeds where it does. -/
theorem bind_eq_ok_of_imp {x : Except ε α} {f g : α → Except ε β} {b b' : β} (h : x >>= f = .ok b)
    (hg : ∀ a, f a = .ok b → g a = .ok b') : x >>= g = .ok b' := by
  obtain ⟨a, rfl, h⟩ := exists_of_bind_eq_ok h
  exact hg a h

/-- A result that was made from another comes from a success. -/
theorem exists_of_map_eq_ok {x : Except ε α} {f : α → β} {b : β} (h : x.map f = .ok b) :
    ∃ a, x = .ok a ∧ f a = b := by
  cases x with
  | error fault => cases h
  | ok a =>
    cases h
    exact ⟨a, rfl, rfl⟩

/-- Naming faults in another way changes no success. -/
theorem eq_ok_of_mapError_eq_ok {x : Except ε α} {f : ε → ε'} {a : α} (h : x.mapError f = .ok a) :
    x = .ok a := by
  cases x with
  | error fault => cases h
  | ok b =>
    cases h
    rfl

/-- What fails in two stages fails in one of them. -/
theorem eq_error_of_bind_eq_error {x : Except ε α} {f : α → Except ε β} {fault : ε}
    (h : x >>= f = .error fault) : x = .error fault ∨ ∃ a, x = .ok a ∧ f a = .error fault := by
  cases x with
  | error other =>
    cases h
    exact .inl rfl
  | ok a => exact .inr ⟨a, rfl, h⟩

theorem map_eq_error_iff {x : Except ε α} {f : α → β} {fault : ε} :
    x.map f = .error fault ↔ x = .error fault := by
  cases x with
  | error other => exact ⟨fun h => by cases h; rfl, fun h => by cases h; rfl⟩
  | ok a => exact ⟨nofun, nofun⟩

/-- A fault that was named in another way comes from a fault. -/
theorem exists_of_mapError_eq_error {x : Except ε α} {f : ε → ε'} {fault : ε'}
    (h : x.mapError f = .error fault) : ∃ other, x = .error other ∧ f other = fault := by
  cases x with
  | error other =>
    cases h
    exact ⟨other, rfl, rfl⟩
  | ok a => cases h

/-- What has a result succeeds with it. -/
theorem eq_ok_of_toOption_eq_some {x : Except ε α} {a : α} (h : x.toOption = some a) : x = .ok a := by
  cases x with
  | error fault => cases h
  | ok b =>
    cases h
    rfl

/-- What has some result succeeds. -/
theorem exists_of_isSome_toOption {x : Except ε α} (h : x.toOption.isSome = true) :
    ∃ a, x = .ok a := by
  obtain ⟨a, ha⟩ := Option.isSome_iff_exists.1 h
  exact ⟨a, eq_ok_of_toOption_eq_some ha⟩

/-- What has no result fails. -/
theorem exists_of_toOption_eq_none {x : Except ε α} (h : x.toOption = none) :
    ∃ fault, x = .error fault := by
  cases x with
  | error fault => exact ⟨fault, rfl⟩
  | ok a => cases h

/-- If every success of a stage is known, so is the success of the stage on a whole list. -/
theorem eq_map_of_mapM_eq_ok {f : α → Except ε β} {g : α → β}
    (hf : ∀ a b, f a = .ok b → b = g a) {xs : List α} {ys : List β} (h : xs.mapM f = .ok ys) :
    ys = xs.map g := by
  induction xs generalizing ys with
  | nil =>
    cases h
    rfl
  | cons x xs ih =>
    rw [List.mapM_cons] at h
    obtain ⟨y, hy, h⟩ := exists_of_bind_eq_ok h
    obtain ⟨rest, hrest, h⟩ := exists_of_bind_eq_ok h
    cases h
    rw [hf x y hy, ih hrest, List.map_cons]

theorem mapM_eq_ok {f : α → Except ε β} {g : α → β} {xs : List α} (h : ∀ x ∈ xs, f x = .ok (g x)) :
    xs.mapM f = .ok (xs.map g) := by
  induction xs with
  | nil => rfl
  | cons x xs ih =>
    rw [List.mapM_cons, h x List.mem_cons_self, ih fun y hy => h y (List.mem_cons_of_mem x hy)]
    rfl

theorem mapM_cons_eq_error_iff {f : α → Except ε β} {x : α} {xs : List α} {fault : ε} :
    (x :: xs).mapM f = .error fault ↔
      f x = .error fault ∨ (∃ b, f x = .ok b) ∧ xs.mapM f = .error fault := by
  rw [List.mapM_cons]
  constructor
  · intro h
    rcases eq_error_of_bind_eq_error h with h | ⟨b, hb, h⟩
    · exact .inl h
    rcases eq_error_of_bind_eq_error h with h | ⟨_, -, h⟩
    · exact .inr ⟨⟨b, hb⟩, h⟩
    · cases h
  · rintro (h | ⟨⟨b, hb⟩, h⟩)
    · rw [h]
      rfl
    · rw [hb, h]
      rfl

/-- **A stage fails on a list with the fault of the first element that it fails on.** -/
theorem mapM_eq_error_iff {f : α → Except ε β} {xs : List α} {fault : ε} :
    xs.mapM f = .error fault ↔
      ∃ before x after, xs = before ++ x :: after ∧ f x = .error fault ∧
        ∀ y ∈ before, ∃ b, f y = .ok b := by
  induction xs with
  | nil =>
    constructor
    · intro h
      cases h
    · rintro ⟨before, x, after, hsplit, -, -⟩
      simp at hsplit
  | cons x xs ih =>
    rw [mapM_cons_eq_error_iff, ih]
    constructor
    · rintro (hx | ⟨hx, before, y, after, rfl, hy, hbefore⟩)
      · exact ⟨[], x, xs, rfl, hx, by simp⟩
      · exact ⟨x :: before, y, after, rfl, hy, List.forall_mem_cons.2 ⟨hx, hbefore⟩⟩
    · rintro ⟨before, y, after, hsplit, hy, hbefore⟩
      cases before with
      | nil =>
        cases hsplit
        exact .inl hy
      | cons z before =>
        cases hsplit
        obtain ⟨hz, hbefore⟩ := List.forall_mem_cons.1 hbefore
        exact .inr ⟨hz, before, y, after, rfl, hy, hbefore⟩

end

/-! ### Stages that change a state -/

section

variable {σ ε α β : Type} {x : ExceptT ε (StateM σ) α} {f : α → ExceptT ε (StateM σ) β} {s after : σ}

/-- Of two steps, the second starts from the state that the first leaves. -/
theorem run_bind (x : ExceptT ε (StateM σ) α) (f : α → ExceptT ε (StateM σ) β) (s : σ) :
    (x >>= f).run s = (ExceptT.bindCont f (x.run s).1).run (x.run s).2 := rfl

/-- A step that succeeds hands its result and its state on. -/
theorem run_bind_of_ok {a : α} (h : x.run s = (.ok a, after)) :
    (x >>= f).run s = (f a).run after := by
  rw [run_bind, h]
  rfl

/-- A step that fails is the last one, and its state stays. -/
theorem run_bind_of_error {fault : ε} (h : x.run s = (.error fault, after)) :
    (x >>= f).run s = (.error fault, after) := by
  rw [run_bind, h]
  rfl

/-- Looking at the state changes nothing. -/
theorem run_get_bind (f : σ → ExceptT ε (StateM σ) β) (s : σ) : (get >>= f).run s = (f s).run s :=
  rfl

end

end BuildPlan
