import Gherkin.Proofs.Registry.Script

/-!
# Sound registries

A registry is sound if its index is right, its hooks are in order, and definitions have numbers of
their own, none of which is still to be given out. Every operation keeps this. A registry that goes
back to a snapshot keeps it too, because its counters do not go back: a session is sound if its
registry and all its snapshots are, and if no snapshot is ahead of the registry.

Main statements: a registry of declared steps is sound (`Registry.Sound.ofDeclarations`), and what a
script does to a sound session leaves it sound (`Script.sound_session`).
-/

namespace Gherkin

variable {σ : Type}

namespace Registry

/-- The index is right, definitions have numbers of their own that were given out before, and the
hooks are in order. -/
structure Sound (r : Registry σ) : Prop where
  indexed : r.Indexed
  apart : r.steps.Pairwise fun a b ↦ a.id ≠ b.id
  numbered : ∀ d ∈ r.steps, d.id.number ≤ r.lastId
  hooks : r.hooks.Sound

namespace Sound

variable {r : Registry σ}

theorem empty : (Registry.empty : Registry σ).Sound :=
  ⟨.empty, .nil, fun _ h ↦ absurd h List.not_mem_nil, .empty⟩

theorem withStep (h : r.Sound) {pattern : Text} {compiled : StepPattern}
    (hcompiled : StepPattern.ofText pattern = .ok compiled) (handler : Handler σ)
    (origin : Option DeclarationSite) : (r.withStep compiled handler origin).Sound := by
  refine ⟨h.indexed.withStep hcompiled handler origin, ?_, fun d hd ↦ ?_, ?_⟩
  · rw [h.indexed.steps_withStep]
    refine pairwise_id_replaceOrAppend h.apart fun d hd heq ↦ ?_
    have hle := h.numbered d hd
    rw [heq] at hle
    exact Nat.not_succ_le_self _ hle
  · rw [h.indexed.steps_withStep] at hd
    rw [withStep_lastId]
    rcases mem_of_mem_replaceOrAppend hd with rfl | hd
    · exact Nat.le_refl _
    · exact Nat.le_succ_of_le (h.numbered d hd)
  · rw [withStep_hooks]
    exact h.hooks

theorem unregister (h : r.Sound) (handle : StepHandle) : (r.unregister handle).2.Sound := by
  refine ⟨h.indexed.unregister handle, ?_, fun d hd ↦ ?_, ?_⟩
  · rw [h.indexed.steps_unregister]
    exact h.apart.sublist List.filter_sublist
  · rw [h.indexed.steps_unregister] at hd
    rw [unregister_lastId]
    exact h.numbered d ((List.mem_filter.1 hd).1)
  · rw [unregister_hooks]
    exact h.hooks

/-- The definitions are sound by themselves, whatever becomes of the hooks. -/
theorem withHooks (h : r.Sound) {table : HookTable σ} (htable : table.Sound) :
    Registry.Sound { r with hooks := table } :=
  ⟨h.indexed.congr rfl rfl, h.apart, h.numbered, htable⟩

theorem hook (h : r.Sound) (scope : Scope) (t : Timing) (options : HookPlacement)
    (callback : Callback σ t) : (r.hook scope t options callback).2.Sound :=
  h.withHooks (h.hooks.insert scope t options callback)

theorem unhook (h : r.Sound) (handle : HookHandle) : (r.unhook handle).2.Sound :=
  h.withHooks (h.hooks.remove handle)

theorem clear (r : Registry σ) : r.clear.Sound :=
  ⟨.clear r, .nil, fun _ h ↦ absurd h List.not_mem_nil, .cleared r.hooks⟩

theorem restore {saved : Snapshot σ} (h : saved.contents.Sound) (r : Registry σ) :
    (r.restore saved).Sound where
  indexed := h.indexed.congr rfl rfl
  apart := h.apart
  numbered d hd := Nat.le_trans (h.numbered d hd) (Nat.le_max_left _ _)
  hooks := h.hooks.skipIds r.hooks

end Sound

/-- What a declaration that is not refused does. -/
theorem of_registerDeclared {r r' : Registry σ} {d : DeclaredStep σ}
    (h : r.registerDeclared d = .ok r') :
    ∃ pattern compiled, d.sentence = .ok pattern ∧ StepPattern.ofText pattern = .ok compiled ∧
      r' = r.withStep compiled d.handler (some d.origin) := by
  unfold registerDeclared at h
  obtain ⟨pattern, hpattern, h⟩ := bind_eq_ok_iff.1 h
  obtain ⟨⟨handle, after⟩, hregister, hafter⟩ := bind_eq_ok_iff.1 h
  obtain ⟨compiled, hcompiled, -, rfl⟩ := register_eq_ok_iff.1 hregister
  cases hafter
  exact ⟨pattern, compiled, hpattern, hcompiled, rfl⟩

/-- A state that follows the registry through single declarations follows it through all of them. -/
theorem ofDeclarations_related {τ : Type} {R : Registry σ → τ → Prop}
    (follow : τ → DeclaredStep σ → τ) {ds : List (DeclaredStep σ)} {r : Registry σ} {t : τ}
    (hfollow : ∀ r r' t d, Registry.registerDeclared r d = .ok r' → R r t → R r' (follow t d))
    (hempty : R .empty t) (h : Registry.ofDeclarations ds = .ok r) :
    R r ((ds.mergeSort declaredBefore).foldl follow t) := by
  unfold ofDeclarations at h
  generalize ds.mergeSort declaredBefore = sorted at h ⊢
  generalize (empty : Registry σ) = first at h hempty
  induction sorted generalizing first t with
  | nil =>
    cases h
    exact hempty
  | cons d rest ih =>
    rw [List.foldlM_cons] at h
    obtain ⟨next, hnext, h⟩ := bind_eq_ok_iff.1 h
    exact ih next h (hfollow first next t d hnext hempty)

theorem Sound.ofDeclarations {ds : List (DeclaredStep σ)} {r : Registry σ}
    (h : Registry.ofDeclarations ds = .ok r) : r.Sound := by
  refine ofDeclarations_related (R := fun r (_ : Unit) ↦ r.Sound) (t := ()) (fun _ _ ↦ ())
    (fun r r' _ d hregister hsound ↦ ?_) .empty h
  obtain ⟨pattern, compiled, -, hcompiled, rfl⟩ := of_registerDeclared hregister
  exact hsound.withStep hcompiled d.handler (some d.origin)

/-- A step that is declared under a pattern which every sentence matches. -/
def anyStep : DeclaredStep Nat :=
  ⟨some ['^'], none, [], fun _ ↦ .pure (), ⟨"steps".toList, 1⟩⟩

def ofAnyStep : Registry Nat := ((Registry.ofDeclarations [anyStep]).toOption).getD .empty

theorem ofDeclarations_anyStep : Registry.ofDeclarations [anyStep] = .ok ofAnyStep := by
  have hcompiled : (StepPattern.ofText ['^']).toOption.isSome = true := by decide +kernel
  cases h : StepPattern.ofText ['^'] with
  | error fault =>
    rw [h] at hcompiled
    cases hcompiled
  | ok compiled =>
    have hok : Registry.ofDeclarations [anyStep] =
        .ok (empty.withStep compiled anyStep.handler (some anyStep.origin)) := by
      unfold Registry.ofDeclarations
      rw [List.mergeSort_singleton, List.foldlM_cons]
      change ((Registry.register empty ['^'] _ _ >>= _) >>= _) = _
      rw [register_of_ok h]
      rfl
    rw [ofAnyStep, hok]
    rfl

end Registry

namespace Session

/-- The registry and all snapshots are sound, and no snapshot is ahead of the registry. -/
structure Sound (s : Session σ) : Prop where
  registry : s.registry.Sound
  saved : ∀ saved ∈ s.snapshots, saved.contents.Sound
  saved_lastId_le : ∀ saved ∈ s.snapshots, saved.contents.lastId ≤ s.registry.lastId
  saved_hooks_lastId_le :
    ∀ saved ∈ s.snapshots, saved.contents.hooks.lastId ≤ s.registry.hooks.lastId

namespace Sound

variable {s t : Session σ}

theorem start {r : Registry σ} (h : r.Sound) : (start r).Sound where
  registry := h
  saved _ h := absurd h List.not_mem_nil
  saved_lastId_le _ h := absurd h List.not_mem_nil
  saved_hooks_lastId_le _ h := absurd h List.not_mem_nil

/-- A later session with the same snapshots is sound if its registry is. -/
theorem of_later (h : s.Sound) (hlater : s.Later t) (hregistry : t.registry.Sound)
    (hsame : t.snapshots = s.snapshots) : t.Sound where
  registry := hregistry
  saved saved hsaved := h.saved saved (hsame ▸ hsaved)
  saved_lastId_le saved hsaved :=
    Nat.le_trans (h.saved_lastId_le saved (hsame ▸ hsaved)) hlater.lastId
  saved_hooks_lastId_le saved hsaved :=
    Nat.le_trans (h.saved_hooks_lastId_le saved (hsame ▸ hsaved)) hlater.hooksLastId

theorem snapshot (h : s.Sound) :
    Sound { s with snapshots := s.snapshots ++ [s.registry.snapshot] } := by
  refine ⟨h.registry, List.forall_mem_append.2 ⟨h.saved, ?_⟩,
    List.forall_mem_append.2 ⟨h.saved_lastId_le, ?_⟩,
    List.forall_mem_append.2 ⟨h.saved_hooks_lastId_le, ?_⟩⟩
  · exact List.forall_mem_singleton.2 h.registry
  · exact List.forall_mem_singleton.2 (Nat.le_refl _)
  · exact List.forall_mem_singleton.2 (Nat.le_refl _)

theorem perform (h : s.Sound) (a : Action σ) : (s.perform a).Sound := by
  have hlater := s.later_perform a
  revert hlater
  apply s.perform_cases a (P := fun t ↦ s.Later t → t.Sound)
  case unchanged => exact fun _ ↦ h
  case step =>
    intro pattern compiled handler hcompiled hlater
    exact h.of_later hlater (h.registry.withStep hcompiled handler none) rfl
  case unregister =>
    exact fun handle hlater ↦ h.of_later hlater (h.registry.unregister handle) rfl
  case hook =>
    intro q hlater
    exact h.of_later hlater (h.registry.hook q.scope q.timing q.placement q.callback) rfl
  case unhook => exact fun handle hlater ↦ h.of_later hlater (h.registry.unhook handle) rfl
  case clear => exact fun hlater ↦ h.of_later hlater (.clear s.registry) rfl
  case snapshot => exact fun _ ↦ h.snapshot
  case restore =>
    exact fun saved hsaved hlater ↦ h.of_later hlater ((h.saved saved hsaved).restore s.registry) rfl

theorem leave (h : s.Sound) (ht : t.Sound) : (s.leave t).Sound :=
  have hsaved : s.registry.snapshot.contents.Sound := h.registry
  ht.of_later (later_leave s t) (hsaved.restore t.registry) rfl

end Sound

end Session

theorem Script.sound_session (script : Script σ) {s : Session σ} (h : s.Sound) :
    (script.session s).Sound :=
  script.session_preserves (fun _ a hs ↦ hs.perform a) (fun _ _ hs ht _ ↦ hs.leave ht) h

/-- A block replaces the definition of `Registry.anyStep`, clears the registry and breaks off; then
the definition and a hook are removed and registered anew, and the registry goes back to its
beginning. -/
def Script.thereAndBack : Script Nat :=
  let step : Handler Nat := fun _ ↦ .pure ()
  let hook : Callback Nat .before := fun _ ↦ .pure ()
  .act (.hook .step .before ⟨['a'], 0, .user⟩ hook) <|
  .act .snapshot <|
  .caught (.block (.act (.register ['^'] step) (.act .clear (.breakOff (.integer 1)))) .done) <|
  .act (.unregister ⟨⟨1⟩, ['^']⟩) <|
  .act (.unhook ⟨.step, .before, ['a'], 1⟩) <|
  .act (.registerDocumented ['^'] step) <|
  .act (.hook .step .before ⟨['a'], 0, .user⟩ hook) <|
  .act (.restore 0) .done

end Gherkin
