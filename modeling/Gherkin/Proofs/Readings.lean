/-!
# Readings in sequence

A reading gives something or is refused. Readings that are put together give something exactly if
each of them does, and then what it gives is put together in the same way.

Main statements: one for each way of putting readings together (`bind_eq_ok_iff`, `map_eq_ok_iff`,
`mapM_eq_ok_iff`, `list_mapM_eq_ok_iff`, `mapError_eq_ok_iff`, `toOption_map_eq_some_iff`), and
likewise for readings whose outcome is only seen in part (`mapBoth_bind`, `mapBoth_bind_congr`) or
of which something is known however they end (`EndsIn.bind`).
-/

namespace Gherkin

variable {ε ε' α β : Type}

theorem bind_eq_ok_iff {r : Except ε α} {k : α → Except ε β} {b : β} :
    (r >>= k) = .ok b ↔ ∃ a, r = .ok a ∧ k a = .ok b := by
  cases r <;> simp [bind, Except.bind]

theorem map_eq_ok_iff {g : α → β} {r : Except ε α} {b : β} :
    g <$> r = .ok b ↔ ∃ a, r = .ok a ∧ g a = b := by
  cases r <;> simp [Functor.map, Except.map]

theorem mapM_eq_ok_iff {read : α → Except ε β} {a : Option α} {b : Option β} :
    a.mapM read = .ok b ↔ a.map read = b.map .ok := by
  cases a with
  | none => cases b <;> simp [pure, Except.pure]
  | some a =>
    rw [Option.mapM_some, Option.map_some]
    cases hread : read a <;> cases b <;> simp [Functor.map, Except.map]

theorem list_mapM_eq_ok_iff {read : α → Except ε β} {as : List α} {bs : List β} :
    as.mapM read = .ok bs ↔ as.map read = bs.map .ok := by
  induction as generalizing bs with
  | nil => cases bs <;> simp [pure, Except.pure]
  | cons a as ih =>
    rw [List.mapM_cons, bind_eq_ok_iff, List.map_cons]
    cases bs with
    | nil => simp [bind_eq_ok_iff, pure, Except.pure]
    | cons b bs => simp [bind_eq_ok_iff, ih, pure, Except.pure]

theorem list_mapM_cons_eq_error_iff {read : α → Except ε β} {a : α} {as : List α} {e : ε} :
    (a :: as).mapM read = .error e ↔
      read a = .error e ∨ (∃ c, read a = .ok c) ∧ as.mapM read = .error e := by
  rw [List.mapM_cons]
  cases read a <;> cases as.mapM read <;> simp [bind, Except.bind, pure, Except.pure]

/-- Readings in a row are refused for what is wrong with the first of them that is refused. -/
theorem list_mapM_eq_error_iff {read : α → Except ε β} {as : List α} {e : ε} :
    as.mapM read = .error e ↔ ∃ before a after, as = before ++ a :: after ∧
      (∀ b ∈ before, ∃ c, read b = .ok c) ∧ read a = .error e := by
  induction as with
  | nil => simp [pure, Except.pure]
  | cons first as ih =>
    rw [list_mapM_cons_eq_error_iff, ih]
    constructor
    · rintro (hfirst | ⟨hfirst, before, a, after, rfl, hbefore, ha⟩)
      · exact ⟨[], first, as, rfl, nofun, hfirst⟩
      · exact ⟨first :: before, a, after, rfl, List.forall_mem_cons.2 ⟨hfirst, hbefore⟩, ha⟩
    · rintro ⟨before, a, after, hsplit, hbefore, ha⟩
      cases before with
      | nil =>
        cases hsplit
        exact .inl ha
      | cons b before =>
        cases hsplit
        obtain ⟨hfirst, hbefore⟩ := List.forall_mem_cons.1 hbefore
        exact .inr ⟨hfirst, before, a, after, rfl, hbefore, ha⟩

theorem mapError_eq_ok_iff {report : ε → ε'} {r : Except ε α} {a : α} :
    r.mapError report = .ok a ↔ r = .ok a := by
  constructor
  · intro h
    cases r with
    | error e => cases h
    | ok b => cases h; rfl
  · rintro rfl
    rfl

theorem toOption_map_eq_some_iff {g : α → β} {r : Except ε α} {b : β} :
    r.toOption.map g = some b ↔ ∃ a, r = .ok a ∧ g a = b := by
  cases r <;> simp [Except.toOption]

/-- What a reading gives and what is wrong with it, each as far as it is looked at. -/
def mapBoth (f : ε → ε') (g : α → β) : Except ε α → Except ε' β
  | .error e => .error (f e)
  | .ok a => .ok (g a)

section MapBoth

variable {γ δ : Type} {f : ε → ε'} {g : α → γ} {k : α → Except ε β}

@[simp] theorem mapBoth_error (e : ε) : mapBoth f g (.error e : Except ε α) = .error (f e) := rfl

@[simp] theorem mapBoth_ok (a : α) : mapBoth f g (.ok a : Except ε α) = .ok (g a) := rfl

/-- A reading in two parts is seen in part if the second part does not ask for more of the first
than is seen. -/
theorem mapBoth_bind {h : β → δ} {k' : γ → Except ε' δ} (hk : ∀ a, k' (g a) = mapBoth f h (k a))
    (r : Except ε α) : mapBoth f g r >>= k' = mapBoth f h (r >>= k) := by
  cases r with
  | error e => rfl
  | ok a => exact hk a

/-- Two readings in two parts look the same if their parts do. -/
theorem mapBoth_bind_congr {h : β → δ} {k' : α → Except ε β} {r r' : Except ε α}
    (hr : mapBoth f g r = mapBoth f g r')
    (hk : ∀ a a', g a = g a' → mapBoth f h (k a) = mapBoth f h (k' a')) :
    mapBoth f h (r >>= k) = mapBoth f h (r' >>= k') := by
  cases r with
  | error e =>
    cases r' with
    | error e' => exact congrArg Except.error (Except.error.inj hr)
    | ok a' => cases hr
  | ok a =>
    cases r' with
    | error e' => cases hr
    | ok a' => exact hk a a' (Except.ok.inj hr)

end MapBoth

/-- What is wrong is as `P` says, and what is given is as `Q` says. -/
def EndsIn (P : ε → Prop) (Q : α → Prop) : Except ε α → Prop
  | .error e => P e
  | .ok a => Q a

namespace EndsIn

variable {P : ε → Prop} {Q Q' : α → Prop} {R : β → Prop} {r : Except ε α}

instance [DecidablePred P] [DecidablePred Q] : DecidablePred (EndsIn P Q)
  | .error e => inferInstanceAs (Decidable (P e))
  | .ok a => inferInstanceAs (Decidable (Q a))

theorem exists_error (h : EndsIn P (fun _ ↦ False) r) : ∃ e, r = .error e ∧ P e := by
  cases r with
  | error e => exact ⟨e, rfl, h⟩
  | ok a => exact h.elim

theorem mono (h : EndsIn P Q r) (hQ : ∀ a, Q a → Q' a) : EndsIn P Q' r := by
  cases r with
  | error e => exact h
  | ok a => exact hQ a h

theorem exists_ok (h : EndsIn (fun _ ↦ False) Q r) : ∃ a, r = .ok a ∧ Q a := by
  cases r with
  | error e => exact h.elim
  | ok a => exact ⟨a, rfl, h⟩

/-- What is given may be traced back to the reading. -/
theorem traced (h : EndsIn P Q r) : EndsIn P (fun a ↦ Q a ∧ r = .ok a) r := by
  cases r with
  | error e => exact h
  | ok a => exact ⟨h, rfl⟩

theorem bind {k : α → Except ε β} (h : EndsIn P Q r) (hk : ∀ a, Q a → EndsIn P R (k a)) :
    EndsIn P R (r >>= k) := by
  cases r with
  | error e => exact h
  | ok a => exact hk a h

theorem map {g : α → β} (h : EndsIn P Q r) (hg : ∀ a, Q a → R (g a)) : EndsIn P R (g <$> r) := by
  cases r with
  | error e => exact h
  | ok a => exact hg a h

theorem mapError {P' : ε' → Prop} {report : ε → ε'} (h : EndsIn P Q r)
    (hP : ∀ e, P e → P' (report e)) : EndsIn P' Q (r.mapError report) := by
  cases r with
  | error e => exact hP e h
  | ok a => exact h

end EndsIn

end Gherkin
