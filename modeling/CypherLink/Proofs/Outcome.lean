/-!
Computations that may fail, taken apart when they succeed and when they fail.
-/

namespace CypherLink.Outcome

variable {ε ε' α β : Type}

theorem bind_eq_ok {x : Except ε α} {f : α → Except ε β} {b : β} :
    x >>= f = .ok b ↔ ∃ a, x = .ok a ∧ f a = .ok b := by
  cases x with
  | error e => simp [bind, Except.bind]
  | ok a => simp [bind, Except.bind]

theorem mapError_eq_ok {x : Except ε α} {f : ε → ε'} {a : α} :
    x.mapError f = .ok a ↔ x = .ok a := by
  cases x with
  | error e => exact ⟨nofun, nofun⟩
  | ok b =>
    constructor
    · intro h
      exact congrArg Except.ok (Except.ok.inj h)
    · intro h
      exact congrArg Except.ok (Except.ok.inj h)

theorem bind_eq_error {x : Except ε α} {f : α → Except ε β} {e : ε} :
    x >>= f = .error e ↔ x = .error e ∨ ∃ a, x = .ok a ∧ f a = .error e := by
  cases x with
  | error e => simp [bind, Except.bind]
  | ok a => simp [bind, Except.bind]

theorem mapError_eq_error {x : Except ε α} {f : ε → ε'} {e : ε'} :
    x.mapError f = .error e ↔ ∃ e', x = .error e' ∧ f e' = e := by
  cases x with
  | error e' =>
    constructor
    · intro h
      exact ⟨e', rfl, Except.error.inj h⟩
    · rintro ⟨_, ⟨⟩, h⟩
      exact congrArg Except.error h
  | ok a =>
    refine iff_of_false nofun ?_
    rintro ⟨_, ⟨⟩, -⟩

theorem map_eq_ok {x : Except ε α} {f : α → β} {b : β} :
    x.map f = .ok b ↔ ∃ a, x = .ok a ∧ f a = b := by
  cases x with
  | error e =>
    constructor
    · intro h
      cases h
    · rintro ⟨_, ⟨⟩, -⟩
  | ok a =>
    constructor
    · intro h
      exact ⟨a, rfl, Except.ok.inj h⟩
    · rintro ⟨_, ⟨⟩, h⟩
      exact congrArg Except.ok h

/-- Two computations agree up to what is left of their results if both succeed with results of which
the same is left, or both fail with one error. -/
theorem of_map_eq_map {γ : Type} {x : Except ε α} {y : Except ε β} {f : α → γ} {g : β → γ}
    (h : x.map f = y.map g) :
    (∃ a b, x = .ok a ∧ y = .ok b ∧ f a = g b) ∨ ∃ e, x = .error e ∧ y = .error e := by
  cases x with
  | error e =>
    cases y with
    | error e' => exact .inr ⟨e, rfl, congrArg Except.error (Except.error.inj h).symm⟩
    | ok b => cases h
  | ok a =>
    cases y with
    | error e' => cases h
    | ok b => exact .inl ⟨a, b, rfl, rfl, Except.ok.inj h⟩

theorem pure_eq_ok {a b : α} : (pure a : Except ε α) = .ok b ↔ a = b := by
  simp [pure, Except.pure]

theorem eq_ok_of_toOption {x : Except ε α} {a : α} (h : x.toOption = some a) : x = .ok a := by
  cases x with
  | error e => cases h
  | ok b => exact congrArg Except.ok (Option.some.inj h)

theorem eq_ok_of_isSome {x : Except ε α} (h : x.toOption.isSome = true) :
    ∃ a, x = .ok a := by
  cases x with
  | error e => simp [Except.toOption] at h
  | ok a => exact ⟨a, rfl⟩

section Only

variable {P : ε → Prop} {x : Except ε α} {f : α → Except ε β}

/-- Whatever the computation fails with is of that kind. -/
def Only (P : ε → Prop) (x : Except ε α) : Prop := ∀ e, x = .error e → P e

/-- The computation does not fail. -/
abbrev Never (x : Except ε α) : Prop := Only (fun _ => False) x

theorem only_ok (a : α) : Only P (.ok a : Except ε α) := nofun

theorem only_error {e : ε} : Only P (.error e : Except ε α) ↔ P e :=
  ⟨fun h => h e rfl, fun h _ he => Except.error.inj he ▸ h⟩

theorem only_bind : Only P (x >>= f) ↔ Only P x ∧ ∀ a, x = .ok a → Only P (f a) := by
  cases x with
  | error e =>
    have hbind : Only P (.error e >>= f) ↔ Only P (.error e : Except ε α) :=
      only_error.trans only_error.symm
    exact hbind.trans (and_iff_left nofun).symm
  | ok a =>
    constructor
    · intro h
      refine ⟨only_ok a, ?_⟩
      rintro _ ⟨⟩
      exact h
    · intro h
      exact h.2 a rfl

theorem never_bind : Never (x >>= f) ↔ Never x ∧ ∀ a, x = .ok a → Never (f a) := only_bind

theorem only_mapError {g : ε' → ε} {x : Except ε' α} :
    Only P (x.mapError g) ↔ Only (fun e => P (g e)) x := by
  constructor
  · intro h e he
    exact h (g e) (mapError_eq_error.mpr ⟨e, he, rfl⟩)
  · intro h e he
    obtain ⟨e', he', rfl⟩ := mapError_eq_error.mp he
    exact h e' he'

theorem only_map {g : α → β} : Only P (x.map g) ↔ Only P x := by
  cases x with
  | error e => exact only_error.trans only_error.symm
  | ok a => exact iff_of_true (only_ok _) (only_ok a)

theorem never_iff : Never x ↔ ∃ a, x = .ok a := by
  cases x with
  | error e => exact iff_of_false (fun h => h e rfl) (by rintro ⟨_, ⟨⟩⟩)
  | ok a => exact iff_of_true (only_ok a) ⟨a, rfl⟩

theorem never_mapM {xs : List α} : Never (xs.mapM f) ↔ ∀ x ∈ xs, Never (f x) := by
  induction xs with
  | nil => exact iff_of_true (only_ok _) nofun
  | cons x xs ih =>
    rw [List.mapM_cons, never_bind, List.forall_mem_cons]
    refine and_congr_right fun hx => ?_
    obtain ⟨b, hb⟩ := never_iff.mp hx
    have hrest : Never (xs.mapM f >>= fun bs => pure (b :: bs)) ↔ Never (xs.mapM f) :=
      never_bind.trans (and_iff_left fun _ _ => only_ok _)
    constructor
    · intro h
      exact ih.mp (hrest.mp (h b hb))
    · rintro h b' hb'
      obtain rfl := Except.ok.inj (hb.symm.trans hb')
      exact hrest.mpr (ih.mpr h)

/-- Whether a step fails has nothing to do with the steps before it. -/
theorem never_foldlM {step : β → α → Except ε β} {Q : α → Prop}
    (h : ∀ b a, Never (step b a) ↔ Q a) {xs : List α} {b : β} :
    Never (xs.foldlM step b) ↔ ∀ a ∈ xs, Q a := by
  induction xs generalizing b with
  | nil => exact iff_of_true (only_ok _) nofun
  | cons a xs ih =>
    rw [List.foldlM_cons, never_bind, List.forall_mem_cons, h b a]
    refine and_congr_right fun ha => ?_
    obtain ⟨b', hb'⟩ := never_iff.mp ((h b a).mpr ha)
    exact ⟨fun hrest => ih.mp (hrest b' hb'), fun hrest _ _ => ih.mpr hrest⟩

end Only

end CypherLink.Outcome
