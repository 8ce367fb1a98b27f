import Gherkin.Proofs.Registry.Handles

/-!
# Handles of other registries

Registries count registrations each for itself, and a handle holds a number and a pattern, or a
number with the scope and the timing of a hook. A registry therefore takes a handle that another one
gave out for its own if it has given out the same number under the same pattern, or for a hook of
the same scope and timing, whatever its name, and removes what it registered then. Any other foreign
handle removes nothing.

Main statement: `Registry.foreign_handles_remove_likes`.
-/

namespace Gherkin

variable {σ : Type}

/-- The registration was of a hook of the same scope, timing and number. -/
def HookRegistration.IsLike (g : HookRegistration σ) (handle : HookHandle) : Prop :=
  g.handle.scope = handle.scope ∧ g.handle.timing = handle.timing ∧ g.handle.id = handle.id

theorem HookRegistration.Made.handle_eq {g : HookRegistration σ} {scope : Scope} {t : Timing}
    {hook : Hook σ t} (h : g.Made scope t hook) :
    g.handle.scope = scope ∧ g.handle.timing = t ∧ g.handle.id = hook.id := by
  cases h
  exact ⟨rfl, rfl, rfl⟩

namespace Session

/-- Whoever gave the handle out, it removes the definition that is like it and nothing else. That
definition was there from the first or is owed to a registration with the same handle. -/
structure RemovesLikeStep (s : Session σ) (first : Registry σ) (handle : StepHandle) : Prop
    extends s.registry.RemovesLike handle where
  owed : ∀ d ∈ s.registry.steps, d.IsLike handle →
    d ∈ first.steps ∨ ∃ g ∈ s.stepsMade, g.handle = handle ∧ g.Made d

/-- Whoever gave the handle out, it removes the hook of its scope and timing that has its number, and
nothing else. That hook is owed to a registration of the same scope, timing and number. -/
structure RemovesLikeHook (s : Session σ) (handle : HookHandle) : Prop
    extends s.registry.UnhooksLike handle where
  owed : ∀ hook ∈ s.registry.hooks.bucket handle.scope handle.timing, hook.id = handle.id →
    ∃ g ∈ s.hooksMade, g.IsLike handle ∧ g.Made handle.scope handle.timing hook

namespace Accounted

variable {first : Registry σ} {s : Session σ}

theorem owed_step (h : s.Accounted first) {handle : StepHandle} {d : StepDefinition σ}
    (hd : d ∈ s.registry.steps) (hlike : d.IsLike handle) :
    d ∈ first.steps ∨ ∃ g ∈ s.stepsMade, g.handle = handle ∧ g.Made d := by
  refine (h.held.steps d hd).imp_right fun ⟨g, hg, hmade⟩ ↦ ⟨g, hg, ?_, hmade⟩
  obtain ⟨hpattern, hid⟩ := hlike
  have hsame : g.handle.id = handle.id := hmade.id.symm.trans hid
  have hsame' : g.handle.pattern = handle.pattern := hmade.pattern.symm.trans hpattern
  calc g.handle = ⟨g.handle.id, g.handle.pattern⟩ := rfl
    _ = handle := by rw [hsame, hsame']

theorem removesLikeStep (h : s.Accounted first) (handle : StepHandle) :
    s.RemovesLikeStep first handle :=
  ⟨h.sound.registry.indexed.removesLike handle, fun _ hd hlike ↦ h.owed_step hd hlike⟩

theorem owed_hook (h : s.Accounted first) (hfirst : first.hooks = {}) {handle : HookHandle}
    {hook : Hook σ handle.timing}
    (hhook : hook ∈ s.registry.hooks.bucket handle.scope handle.timing)
    (hid : hook.id = handle.id) :
    ∃ g ∈ s.hooksMade, g.IsLike handle ∧ g.Made handle.scope handle.timing hook := by
  rcases h.held.hooks handle.scope handle.timing hook hhook with hold | ⟨g, hg, hmade⟩
  · rw [hfirst] at hold
    exact absurd hold List.not_mem_nil
  · obtain ⟨hscope, htiming, hnumber⟩ := hmade.handle_eq
    exact ⟨g, hg, ⟨hscope, htiming, hnumber.trans hid⟩, hmade⟩

theorem removesLikeHook (h : s.Accounted first) (hfirst : first.hooks = {}) (handle : HookHandle) :
    s.RemovesLikeHook handle :=
  ⟨Registry.unhooksLike h.sound.registry.hooks handle,
    fun _ hhook hid ↦ h.owed_hook hfirst hhook hid⟩

end Accounted

end Session

/-- A step that every sentence matches and a hook are registered. -/
def Script.oneOfEach (name : Text) : Script Nat :=
  .act (.register ['^'] fun _ ↦ .pure ()) <|
  .act (.hook .step .before ⟨name, 0, .user⟩ fun _ ↦ .pure ()) .done

namespace Registry

/-- Declared steps come without hooks. -/
theorem hooks_ofDeclarations {ds : List (DeclaredStep σ)} {r : Registry σ}
    (h : ofDeclarations ds = .ok r) : r.hooks = {} := by
  refine ofDeclarations_related (R := fun r (_ : Unit) ↦ r.hooks = {}) (t := ()) (fun _ _ ↦ ())
    (fun r r' _ d hregister hnone ↦ ?_) rfl h
  obtain ⟨pattern, compiled, -, -, rfl⟩ := of_registerDeclared hregister
  rwa [withStep_hooks]

/-- Whatever is done with two registries of declared steps, a handle that the one gave out removes
from the other what is like it, if there is such a thing, and else nothing. -/
theorem foreign_handles_remove_likes {ds ds' : List (DeclaredStep σ)} {r r' : Registry σ}
    (h : ofDeclarations ds = .ok r) (h' : ofDeclarations ds' = .ok r') (script script' : Script σ) :
    ∃ (outcome outcome' : Outcome Empty Unit) (s s' : Session σ),
      script.run Session.interpretation (.start r) = (outcome, s) ∧
      script'.run Session.interpretation (.start r') = (outcome', s') ∧
      (∀ g ∈ s'.stepsMade, s.RemovesLikeStep r g.handle) ∧
      (∀ g ∈ s'.hooksMade, s.RemovesLikeHook g.handle) ∧
      (∀ g ∈ s.stepsMade, s'.RemovesLikeStep r' g.handle) ∧
      ∀ g ∈ s.hooksMade, s'.RemovesLikeHook g.handle := by
  have hs := script.accounted_session (.start (Sound.ofDeclarations h))
  have hs' := script'.accounted_session (.start (Sound.ofDeclarations h'))
  refine ⟨_, _, _, _, rfl, rfl, fun g _ ↦ hs.removesLikeStep g.handle, fun g _ ↦ ?_,
    fun g _ ↦ hs'.removesLikeStep g.handle, fun g _ ↦ ?_⟩
  · exact hs.removesLikeHook (hooks_ofDeclarations h) g.handle
  · exact hs'.removesLikeHook (hooks_ofDeclarations h') g.handle

/-- Two registries with a step and a hook each, of which one has a declared step as well. -/
theorem foreign_handles_remove_likes_oneOfEach :
    ofDeclarations ([] : List (DeclaredStep Nat)) = .ok empty ∧
    ofDeclarations [anyStep] = .ok ofAnyStep ∧
    ∃ (outcome outcome' : Outcome Empty Unit) (s s' : Session Nat),
      (Script.oneOfEach ['a']).run Session.interpretation (.start empty) = (outcome, s) ∧
      (Script.oneOfEach ['b']).run Session.interpretation (.start ofAnyStep) = (outcome', s') ∧
      (∀ g ∈ s'.stepsMade, s.RemovesLikeStep empty g.handle) ∧
      (∀ g ∈ s'.hooksMade, s.RemovesLikeHook g.handle) ∧
      (∀ g ∈ s.stepsMade, s'.RemovesLikeStep ofAnyStep g.handle) ∧
      ∀ g ∈ s.hooksMade, s'.RemovesLikeHook g.handle := by
  have hempty : ofDeclarations ([] : List (DeclaredStep Nat)) = .ok empty := by
    rw [ofDeclarations, List.mergeSort_nil]
    rfl
  exact ⟨hempty, ofDeclarations_anyStep,
    foreign_handles_remove_likes hempty ofDeclarations_anyStep _ _⟩

/-- Of two new registries with a step and a hook each, the handles of one remove the step and the
hook of the other, although the hooks have different names. -/
theorem not_foreign_handles_remove_nothing :
    (∃ g ∈ ((Script.oneOfEach ['b']).session (.start empty)).stepsMade,
      (((Script.oneOfEach ['a']).session (.start empty)).registry.unregister g.handle).1 = true) ∧
    ∃ g ∈ ((Script.oneOfEach ['b']).session (.start empty)).hooksMade,
      (((Script.oneOfEach ['a']).session (.start empty)).registry.unhook g.handle).1 = true := by
  decide +kernel

end Registry

end Gherkin
