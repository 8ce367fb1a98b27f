import Mathlib.Data.List.Infix
import Gherkin.Localization.Selection

/-!
# Scopes of locales

A program enters and leaves scopes, selects locales and asks for messages, in any order in which
the guards of scopes are dropped newest first. Whatever it does inside a scope changes the slot and
what newer guards keep. What the guard of the scope keeps, what older guards keep and the loader of
the process stay as they were, so that dropping the guard brings all of it back.

Main statements: one action inside a scope (`Encloses.perform`), any number of them
(`Encloses.after`), and the end of the scope (`scopes_isolate`).
-/

namespace Gherkin

/-- What a program does with locales. -/
inductive LocalizationAction where
  | enter (requested : List LanguageTag)
  | leave
  | select (requested : List LanguageTag)
  | languages
  | message (key : Text) (args : List (Text × Text))
  deriving DecidableEq, Repr

/-- What it is answered. -/
inductive LocalizationReply (ε : Type) where
  | entered (r : Except (LocalizationError ε) Unit)
  | left (held : Bool)
  | selected (r : Except (LocalizationError ε) (List Locale))
  | languages (r : Except (LocalizationError ε) (List Locale))
  | message (t : Text)

namespace Loaders

variable {L ε : Type} (T : Translations L ε)

/-- Does one thing, and tells what comes of it. -/
def perform (s : Loaders L) : LocalizationAction → LocalizationReply ε × Loaders L
  | .enter requested => (s.enter T requested).map .entered id
  | .leave => s.leave.map .left id
  | .select requested => (s.select T requested).map .selected id
  | .languages => (.languages (s.languages T), s)
  | .message key args => (.message (s.message T key args), s)

def after (s : Loaders L) (actions : List LocalizationAction) : Loaders L :=
  actions.foldl (fun s a ↦ (s.perform T a).2) s

/-- At no time during some actions are fewer guards held than the given number. -/
def HoldsGuards (depth : Nat) (s : Loaders L) (actions : List LocalizationAction) : Prop :=
  ∀ done, done <+: actions → depth ≤ (s.after T done).kept.length

variable {T} {s outer : Loaders L} {depth : Nat} {requested : List LanguageTag}

theorem HoldsGuards.head {a : LocalizationAction} {actions : List LocalizationAction}
    (h : HoldsGuards T depth s (a :: actions)) : depth ≤ (s.perform T a).2.kept.length :=
  h [a] (List.prefix_append [a] actions)

theorem HoldsGuards.tail {a : LocalizationAction} {actions : List LocalizationAction}
    (h : HoldsGuards T depth s (a :: actions)) : HoldsGuards T depth (s.perform T a).2 actions :=
  fun done hdone ↦ h (a :: done) (List.cons_prefix_cons.2 ⟨rfl, hdone⟩)

/-- A scope that cannot be entered leaves no trace. -/
theorem enter_of_error {e : LocalizationError ε} (h : (s.enter T requested).1 = .error e) :
    (s.enter T requested).2 = s := by
  unfold enter at h ⊢
  split
  · rfl
  · next heq =>
    rw [heq] at h
    cases h

/-- A selection that fails changes nothing, where the loader is left as it was. -/
theorem select_of_error (hT : T.KeepsOnError) {e : LocalizationError ε}
    (h : (s.select T requested).1 = .error e) : (s.select T requested).2 = s := by
  have hkeeps (l : L) (e : LocalizationError ε)
      (h : (T.select requested l).1.mapError LocalizationError.loader = .error e) :
      (T.select requested l).2 = l := by
    cases hselected : (T.select requested l).1 with
    | error e => exact hT requested l e hselected
    | ok locales =>
      rw [hselected] at h
      cases h
  obtain ⟨processWide, poisoned, slot, kept⟩ := s
  cases slot with
  | some loader => simp only [select, hkeeps loader e h]
  | none =>
    cases poisoned with
    | true => rfl
    | false => simp only [select, Bool.false_eq_true, if_false, hkeeps processWide e h]

/-- What was there before a scope was entered is untouched inside it. -/
structure Encloses (outer inner : Loaders L) : Prop where
  processWide_eq : inner.processWide = outer.processWide
  poisoned_eq : inner.poisoned = outer.poisoned
  slot_isSome : inner.slot.isSome
  kept : ∃ newer : List L, inner.kept = newer.map some ++ outer.slot :: outer.kept

theorem encloses_enter (h : (s.enter T requested).1 = .ok ()) :
    Encloses s (s.enter T requested).2 := by
  unfold enter at h ⊢
  split
  · next heq =>
    rw [heq] at h
    cases h
  · exact ⟨rfl, rfl, rfl, [], rfl⟩

/-- A selection changes the slot only. -/
theorem Encloses.select (h : Encloses outer s) (requested : List LanguageTag) :
    Encloses outer (s.select T requested).2 := by
  obtain ⟨loader, hslot⟩ := Option.isSome_iff_exists.1 h.slot_isSome
  simp only [Loaders.select, hslot]
  exact ⟨h.processWide_eq, h.poisoned_eq, rfl, h.kept⟩

/-- A guard of a scope in the scope keeps the loader that the slot held. -/
theorem Encloses.enter (h : Encloses outer s) (requested : List LanguageTag) :
    Encloses outer (s.enter T requested).2 := by
  unfold Loaders.enter
  split
  · exact h
  · obtain ⟨loader, hslot⟩ := Option.isSome_iff_exists.1 h.slot_isSome
    obtain ⟨newer, hkept⟩ := h.kept
    exact ⟨h.processWide_eq, h.poisoned_eq, rfl, loader :: newer, by rw [hslot, hkept]; rfl⟩

/-- Dropping a newer guard puts back the loader that it keeps. -/
theorem Encloses.leave (h : Encloses outer s) (hheld : outer.kept.length < s.leave.2.kept.length) :
    Encloses outer s.leave.2 := by
  obtain ⟨newer, hkept⟩ := h.kept
  cases newer with
  | nil =>
    simp only [Loaders.leave, hkept, List.map_nil, List.nil_append] at hheld
    exact absurd hheld (Nat.lt_irrefl _)
  | cons loader newer =>
    simp only [Loaders.leave, hkept, List.map_cons, List.cons_append]
    exact ⟨h.processWide_eq, h.poisoned_eq, rfl, newer, rfl⟩

/-- Nothing that is done inside a scope touches what was there before, unless the guard of the scope
is dropped. -/
theorem Encloses.perform (h : Encloses outer s) (a : LocalizationAction)
    (hheld : outer.kept.length < (s.perform T a).2.kept.length) :
    Encloses outer (s.perform T a).2 := by
  cases a with
  | enter requested => exact h.enter requested
  | leave => exact h.leave hheld
  | select requested => exact h.select requested
  | languages => exact h
  | message key args => exact h

theorem Encloses.after (h : Encloses outer s) {inside : List LocalizationAction}
    (hheld : HoldsGuards T (outer.kept.length + 1) s inside) :
    Encloses outer (s.after T inside) := by
  induction inside generalizing s with
  | nil => exact h
  | cons a inside ih => exact ih (h.perform a hheld.head) hheld.tail

/-- When its guard is dropped, nothing is left of a scope. -/
theorem Encloses.leave_eq (h : Encloses outer s) (hinner : s.kept.length = outer.kept.length + 1) :
    s.leave = (true, outer) := by
  obtain ⟨processWide, poisoned, slot, kept⟩ := s
  obtain ⟨rfl, rfl, -, newer, rfl⟩ := h
  cases newer with
  | nil => rfl
  | cons loader newer => simp at hinner; omega

/-- Whatever was in force when a scope was entered: a scope that cannot be entered and a selection
that fails change nothing; and as long as the guard of a scope is held, whatever is selected, asked
or nested inside, the loader of the process is as it was, and so is all that the guard and those
before it keep. Once no newer guard is held, dropping the guard brings back exactly what there was,
with the same locales in force and the same messages. -/
theorem scopes_isolate (hT : T.KeepsOnError) (s : Loaders L) (requested : List LanguageTag) :
    (∀ e, (s.enter T requested).1 = .error e → (s.enter T requested).2 = s) ∧
    (∀ e, (s.select T requested).1 = .error e → (s.select T requested).2 = s) ∧
    ((s.enter T requested).1 = .ok () →
      ∀ inside, HoldsGuards T (s.kept.length + 1) (s.enter T requested).2 inside →
        ∃ now, (s.enter T requested).2.after T inside = now ∧
          now.processWide = s.processWide ∧ s.slot :: s.kept <:+ now.kept ∧
          (now.kept.length = s.kept.length + 1 → now.leave = (true, s) ∧
            now.leave.2.languages T = s.languages T ∧
            ∀ key args, now.leave.2.message T key args = s.message T key args)) := by
  refine ⟨fun e h ↦ enter_of_error h, fun e h ↦ select_of_error hT h,
    fun hentered inside hheld ↦ ?_⟩
  have hnow := (encloses_enter hentered).after hheld
  obtain ⟨newer, hkept⟩ := hnow.kept
  refine ⟨_, rfl, hnow.processWide_eq, ⟨newer.map some, hkept.symm⟩, fun hinner ↦ ?_⟩
  have hleft := hnow.leave_eq hinner
  rw [hleft]
  exact ⟨rfl, rfl, fun _ _ ↦ rfl⟩

def inEnglish : Loaders (List Locale) := { processWide := [.english] }

/-- A request for French as it is spoken in Canada. -/
def canadianFrench : List LanguageTag := [⟨"fr".toList, none, some "CA".toList, []⟩]

/-- Selections at two depths and a scope within the scope. -/
def wandering : List LocalizationAction :=
  [.select [], .enter canadianFrench, .select [], .leave, .languages, .select canadianFrench,
    .message "no-definition-found".toList []]

theorem scopes_isolate_wandering :
    bundled.KeepsOnError ∧
      (inEnglish.enter bundled canadianFrench).1 = .ok () ∧
      HoldsGuards bundled 1 (inEnglish.enter bundled canadianFrench).2 wandering ∧
      ∃ now, (inEnglish.enter bundled canadianFrench).2.after bundled wandering = now ∧
        now.languages bundled = .ok [.french, .english] ∧ now.leave = (true, inEnglish) ∧
        now.leave.2.languages bundled = .ok [.english] := by
  have hkeeps : bundled.KeepsOnError := fun _ _ e _ ↦ e.elim
  have hheld : HoldsGuards bundled 1 (inEnglish.enter bundled canadianFrench).2 wandering := by
    have hinits : ∀ done ∈ wandering.inits,
        1 ≤ ((inEnglish.enter bundled canadianFrench).2.after bundled done).kept.length := by decide
    exact fun done hdone ↦ hinits done ((List.mem_inits _ _).2 hdone)
  obtain ⟨-, -, hscope⟩ := scopes_isolate hkeeps inEnglish canadianFrench
  obtain ⟨now, hnow, -, -, hleft⟩ := hscope rfl wandering hheld
  obtain ⟨hleave, hlanguages, -⟩ := hleft (hnow ▸ rfl)
  exact ⟨hkeeps, rfl, hheld, now, hnow, hnow ▸ rfl, hleave, hlanguages⟩

end Loaders

end Gherkin
