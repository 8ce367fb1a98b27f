import Gherkin.Hooks.Bracket
import Mathlib.Data.List.Forall2

/-!
# Calls that depend on their arguments only

A callback may change the state and still end in the same way whatever the state is. Two runs of it
from different states then end alike, and so do two runs of a bracket whose callbacks are like that,
though the states that they pass on differ. Of an around hook not only the end is held against the
end of another run but the guard that it hands out as well.

Main statement: a call that does not depend on the state does not do so within a bracket either, if
the hooks of the bracket do not (`Bracket.steady_around`).
-/

namespace Gherkin

variable {σ ε ε' α β : Type}

namespace Call

/-- Two calls end in the same way, from whatever states they are begun. -/
def Alike (c c' : Call σ ε α) : Prop := ∀ w w', (c w).1 = (c' w').1

/-- How a call ends does not depend on the state. -/
def Steady (c : Call σ ε α) : Prop := c.Alike c

theorem Alike.exists_eq {c c' : Call σ ε α} (h : c.Alike c') (w w' : σ) :
    ∃ outcome w₁ w₁', c w = (outcome, w₁) ∧ c' w' = (outcome, w₁') := by
  refine ⟨(c w).1, (c w).2, (c' w').2, rfl, ?_⟩
  rw [h w w']

namespace Steady

theorem pure (a : α) : (Call.pure a : Call σ ε α).Steady := fun _ _ ↦ rfl

theorem throw (e : ε) : (Call.throw e : Call σ ε α).Steady := fun _ _ ↦ rfl

theorem andThen {c : Call σ ε α} {k : α → Call σ ε β} (hc : c.Steady) (hk : ∀ a, (k a).Steady) :
    (c.andThen k).Steady := by
  intro w w'
  obtain ⟨outcome, w₁, w₁', hrun, hrun'⟩ := hc.exists_eq w w'
  cases outcome with
  | ok a =>
    rw [andThen_of_ok hrun, andThen_of_ok hrun']
    exact hk a w₁ w₁'
  | error e => rw [andThen_of_error hrun, andThen_of_error hrun']
  | panic p => rw [andThen_of_panic hrun, andThen_of_panic hrun']

theorem mapError {c : Call σ ε α} (hc : c.Steady) (f : ε → ε') : (c.mapError f).Steady := by
  intro w w'
  unfold Call.mapError
  exact congrArg (Outcome.mapError f) (hc w w')

theorem catching {c : Call σ ε α} (hc : c.Steady) (f : Payload → ε) : (c.catching f).Steady := by
  intro w w'
  obtain ⟨outcome, w₁, w₁', hrun, hrun'⟩ := hc.exists_eq w w'
  unfold Call.catching
  rw [hrun, hrun']
  cases outcome <;> rfl

end Steady

end Call

/-- Two around hooks end in the same way, and the guards that they hand out do so as well. -/
inductive GuardsAlike : Outcome Text (Guard σ) → Outcome Text (Guard σ) → Prop
  | ok {guard guard' : Guard σ} : guard.Alike guard' → GuardsAlike (.ok guard) (.ok guard')
  | error (m : Text) : GuardsAlike (.error m) (.error m)
  | panic (p : Payload) : GuardsAlike (.panic p) (.panic p)

/-- Two guards of one hook that end in the same way. -/
structure HeldGuard.Alike (g g' : HeldGuard σ) : Prop where
  name : g.name = g'.name
  exit : g.exit.Alike g'.exit

namespace Bracket

/-- How the hooks of a bracket end for a target does not depend on the state, nor how the guards end
that they hand out. -/
structure Steady (b : Bracket σ) (target : HookSubject) : Prop where
  befores : ∀ h ∈ b.befores, Call.Steady (h.callback target)
  arounds : ∀ h ∈ b.arounds, ∀ w w', GuardsAlike (h.callback target w).1 (h.callback target w').1
  afters : ∀ h ∈ b.afters, Call.Steady (h.callback target)

section Halves

variable (scope : Scope) {target : HookSubject}

theorem steady_runBefores {hooks : List (Hook σ .before)}
    (h : ∀ hook ∈ hooks, Call.Steady (hook.callback target)) :
    Call.Steady (runBefores scope target hooks) := by
  induction hooks with
  | nil => exact .pure ()
  | cons hook hooks ih =>
    have hhook : Call.Steady (hook.callback target) := h hook List.mem_cons_self
    intro w w'
    obtain ⟨outcome, w₁, w₁', hrun, hrun'⟩ := hhook.exists_eq w w'
    rw [runBefores, hrun, runBefores, hrun']
    cases outcome with
    | ok _ => exact ih (fun hook hmem ↦ h hook (List.mem_cons_of_mem _ hmem)) w₁ w₁'
    | error m => rfl
    | panic p => rfl

/-- From two states the same hooks are entered, and the guards that are held then end alike. -/
theorem enterArounds_alike {hooks : List (Hook σ .around)}
    (h : ∀ hook ∈ hooks, ∀ w w',
      GuardsAlike (hook.callback target w).1 (hook.callback target w').1)
    {held held' : List (HeldGuard σ)} (hheld : List.Forall₂ HeldGuard.Alike held held') (w w' : σ) :
    (enterArounds scope target hooks held w).1 = (enterArounds scope target hooks held' w').1 ∧
      List.Forall₂ HeldGuard.Alike (enterArounds scope target hooks held w).2.1
        (enterArounds scope target hooks held' w').2.1 := by
  induction hooks generalizing held held' w w' with
  | nil => exact ⟨rfl, hheld⟩
  | cons hook hooks ih =>
    have hhook := h hook List.mem_cons_self w w'
    rw [enterArounds, enterArounds]
    rcases hrun : hook.callback target w with ⟨outcome, w₁⟩
    rcases hrun' : hook.callback target w' with ⟨outcome', w₁'⟩
    rw [hrun, hrun'] at hhook
    cases hhook with
    | @ok guard guard' hguards =>
      have hmore : List.Forall₂ HeldGuard.Alike (⟨hook.name, guard⟩ :: held)
          (⟨hook.name, guard'⟩ :: held') := .cons ⟨rfl, hguards⟩ hheld
      exact ih (fun hook hmem ↦ h hook (List.mem_cons_of_mem _ hmem)) hmore w₁ w₁'
    | error m => exact ⟨rfl, hheld⟩
    | panic p => exact ⟨rfl, hheld⟩

theorem releaseGuards_alike {guards guards' : List (HeldGuard σ)}
    (h : List.Forall₂ HeldGuard.Alike guards guards') (first : Option HookFailure) (w w' : σ) :
    (releaseGuards scope guards first w).1 = (releaseGuards scope guards' first w').1 := by
  induction h generalizing first w w' with
  | nil => rfl
  | cons hguard _ ih =>
    obtain ⟨outcome, w₁, w₁', hrun, hrun'⟩ := hguard.exit.exists_eq w w'
    rw [releaseGuards, hrun, releaseGuards, hrun', ← hguard.name]
    cases outcome with
    | ok _ => exact ih first w₁ w₁'
    | error m => exact ih _ w₁ w₁'
    | panic p => rfl

theorem runAfters_alike {hooks : List (Hook σ .after)}
    (h : ∀ hook ∈ hooks, Call.Steady (hook.callback target)) (first : Option HookFailure)
    (w w' : σ) :
    (runAfters scope target hooks first w).1 = (runAfters scope target hooks first w').1 := by
  induction hooks generalizing first w w' with
  | nil => rfl
  | cons hook hooks ih =>
    have hhook : Call.Steady (hook.callback target) := h hook List.mem_cons_self
    have hhooks : ∀ hook ∈ hooks, Call.Steady (hook.callback target) :=
      fun hook hmem ↦ h hook (List.mem_cons_of_mem _ hmem)
    obtain ⟨outcome, w₁, w₁', hrun, hrun'⟩ := hhook.exists_eq w w'
    rw [runAfters, hrun, runAfters, hrun']
    cases outcome with
    | ok _ => exact ih hhooks first w₁ w₁'
    | error m => exact ih hhooks _ w₁ w₁'
    | panic p => rfl

end Halves

section Steady

variable {b : Bracket σ} {target : HookSubject} (hb : b.Steady target)

include hb

theorem Steady.enter_alike (hheld : b.entered = []) (w w' : σ) :
    ∃ outcome held held' w₁ w₁',
      b.enter target w = (outcome, { b with entered := held }, w₁) ∧
      b.enter target w' = (outcome, { b with entered := held' }, w₁') ∧
      List.Forall₂ HeldGuard.Alike held held' := by
  obtain ⟨outcome, w₁, w₁', hrun, hrun'⟩ :=
    (steady_runBefores b.scope hb.befores).exists_eq w w'
  unfold enter
  rw [hrun, hrun', hheld]
  cases outcome with
  | ok _ =>
    obtain ⟨houtcome, hguards⟩ := enterArounds_alike b.scope hb.arounds .nil w₁ w₁'
    exact ⟨_, _, _, _, _, rfl, by rw [houtcome], hguards⟩
  | error f => exact ⟨_, [], [], w₁, w₁', by rw [← hheld], by rw [← hheld], .nil⟩
  | panic p => exact ⟨_, [], [], w₁, w₁', by rw [← hheld], by rw [← hheld], .nil⟩

theorem Steady.conclude_alike {held held' : List (HeldGuard σ)}
    (hguards : List.Forall₂ HeldGuard.Alike held held') (inside : Outcome (BracketError ε) α)
    (w w' : σ) :
    (conclude { b with entered := held } target inside w).1 =
      (conclude { b with entered := held' } target inside w').1 := by
  have hleave : (leave { b with entered := held } target w).1 =
      (leave { b with entered := held' } target w').1 := by
    have hreleased := releaseGuards_alike b.scope hguards none w w'
    unfold leave
    rcases hrun : releaseGuards b.scope held none w with ⟨result, rest, w₁⟩
    rcases hrun' : releaseGuards b.scope held' none w' with ⟨result', rest', w₁'⟩
    rw [hrun, hrun'] at hreleased
    obtain rfl : result = result' := hreleased
    cases result with
    | ok first => exact congrArg ending (runAfters_alike b.scope hb.afters first w₁ w₁')
    | error p => rfl
  exact congrArg inside.settle hleave

/-- A call within hooks does not depend on the state if neither it nor the hooks do. -/
theorem steady_around (hheld : b.entered = []) {call : Call σ ε α} (hcall : call.Steady) :
    (b.around target call).Steady := by
  intro w w'
  obtain ⟨outcome, held, held', w₁, w₁', henter, henter', hguards⟩ := hb.enter_alike hheld w w'
  unfold around
  rw [henter, henter']
  cases outcome with
  | ok _ =>
    obtain ⟨inside, w₂, w₂', hrun, hrun'⟩ := hcall.exists_eq w₁ w₁'
    simp only [hrun, hrun']
    exact hb.conclude_alike hguards (inside.mapError .call) w₂ w₂'
  | error f => exact hb.conclude_alike hguards (.error (.hook f)) w₁ w₁'
  | panic p => rfl

end Steady

end Bracket

end Gherkin
