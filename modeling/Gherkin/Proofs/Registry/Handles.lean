import Gherkin.Proofs.Registry.Sound
import Mathlib.Data.List.Nodup

/-!
# Handles

Every registration gives out a handle with a number of its own. Numbers only grow, although the
registry goes back to what it was before, so a handle tells the definition or hook of its own
registration from any other that was ever under the same pattern or name, and from those that were
there before the first registration.

Main statements: a session accounts for whatever its registry and its snapshots hold
(`Session.Accounted.perform`, `Session.Accounted.leave`), and a handle removes what its registration
made or nothing (`Registry.handles_remove_only_their_own`).
-/

namespace Gherkin

variable {σ : Type}

/-- Numbers that were given out in order after a first one, up to a last one. -/
structure Issued (first last : Nat) (numbers : List Nat) : Prop where
  ascending : numbers.Pairwise (· < ·)
  after : ∀ n ∈ numbers, first < n
  upTo : ∀ n ∈ numbers, n ≤ last

namespace Issued

variable {first last : Nat} {numbers : List Nat}

theorem nil : Issued first last [] :=
  ⟨.nil, fun _ h ↦ absurd h List.not_mem_nil, fun _ h ↦ absurd h List.not_mem_nil⟩

theorem mono (h : Issued first last numbers) {later : Nat} (hlater : last ≤ later) :
    Issued first later numbers :=
  ⟨h.ascending, h.after, fun n hn ↦ Nat.le_trans (h.upTo n hn) hlater⟩

theorem append (h : Issued first last numbers) (hfirst : first ≤ last) :
    Issued first (last + 1) (numbers ++ [last + 1]) where
  ascending := by
    refine List.pairwise_append.2 ⟨h.ascending, List.pairwise_singleton .., fun a ha b hb ↦ ?_⟩
    rw [List.mem_singleton.1 hb]
    exact Nat.lt_succ_of_le (h.upTo a ha)
  after := List.forall_mem_append.2
    ⟨h.after, List.forall_mem_singleton.2 (Nat.lt_succ_of_le hfirst)⟩
  upTo := List.forall_mem_append.2
    ⟨(h.mono (Nat.le_succ last)).upTo, List.forall_mem_singleton.2 (Nat.le_refl _)⟩

/-- What was given out before the first one is not given out again. -/
theorem not_mem (h : Issued first last numbers) {n : Nat} (hn : n ≤ first) : n ∉ numbers :=
  fun hmem ↦ Nat.not_le_of_lt (h.after n hmem) hn

theorem nodup (h : Issued first last numbers) : numbers.Nodup := h.ascending.imp Nat.ne_of_lt

/-- What a number was given out for is known by it. -/
theorem eq_of_number_eq {α : Type} {number : α → Nat} {given : List α}
    (h : Issued first last (given.map number)) {a b : α} (ha : a ∈ given) (hb : b ∈ given)
    (heq : number a = number b) : a = b :=
  List.inj_on_of_nodup_map h.nodup ha hb heq

end Issued

/-! ## What a session accounts for -/

namespace Session

/-- Whatever a registry holds was in the first registry or is owed to a registration of the
session. -/
structure AccountsFor (s : Session σ) (first r : Registry σ) : Prop where
  steps : ∀ d ∈ r.steps, d ∈ first.steps ∨ ∃ g ∈ s.stepsMade, g.Made d
  hooks : ∀ (scope : Scope) (t : Timing), ∀ hook ∈ r.hooks.bucket scope t,
    hook ∈ first.hooks.bucket scope t ∨ ∃ g ∈ s.hooksMade, g.Made scope t hook

namespace AccountsFor

variable {s t : Session σ} {first r : Registry σ}

theorem mono (h : s.AccountsFor first r) (hlater : s.Later t) : t.AccountsFor first r where
  steps d hd :=
    (h.steps d hd).imp_right fun ⟨g, hg, hmade⟩ ↦ ⟨g, hlater.stepsMade.subset hg, hmade⟩
  hooks scope t hook hhook :=
    (h.hooks scope t hook hhook).imp_right
      fun ⟨g, hg, hmade⟩ ↦ ⟨g, hlater.hooksMade.subset hg, hmade⟩

/-- A definition that is registered is owed to its registration. -/
theorem withStep (h : s.AccountsFor first s.registry) (hs : s.registry.Indexed) {pattern : Text}
    {compiled : StepPattern} (hcompiled : StepPattern.ofText pattern = .ok compiled)
    (handler : Handler σ) :
    AccountsFor (s.withStep pattern compiled handler) first
      (s.withStep pattern compiled handler).registry := by
  refine ⟨fun d hd ↦ ?_, fun scope t hook hhook ↦ ?_⟩
  · change d ∈ (s.registry.withStep compiled handler none).steps at hd
    rw [hs.steps_withStep] at hd
    rcases mem_of_mem_replaceOrAppend hd with rfl | hd
    · exact .inr ⟨_, List.mem_append_right _ (List.mem_singleton_self _),
        rfl, StepPattern.text_of_ofText hcompiled, rfl, rfl⟩
    · exact (h.steps d hd).imp_right fun ⟨g, hg, hmade⟩ ↦ ⟨g, List.mem_append_left _ hg, hmade⟩
  · change hook ∈ (s.registry.withStep compiled handler none).hooks.bucket scope t at hhook
    rw [Registry.withStep_hooks] at hhook
    exact h.hooks scope t hook hhook

theorem unregister (h : s.AccountsFor first r) (hr : r.Indexed) (handle : StepHandle) :
    s.AccountsFor first (r.unregister handle).2 := by
  refine ⟨fun d hd ↦ ?_, fun scope t hook hhook ↦ ?_⟩
  · rw [hr.steps_unregister] at hd
    exact h.steps d (List.mem_filter.1 hd).1
  · rw [Registry.unregister_hooks] at hhook
    exact h.hooks scope t hook hhook

/-- A hook that is registered is owed to its registration. -/
theorem noteHook (h : s.AccountsFor first s.registry) (q : HookRequest σ) :
    (s.noteHook q).AccountsFor first (s.noteHook q).registry := by
  refine ⟨h.steps, fun scope t hook hhook ↦ ?_⟩
  have hold : hook ∈ s.registry.hooks.bucket scope t →
      hook ∈ first.hooks.bucket scope t ∨ ∃ g ∈ (s.noteHook q).hooksMade, g.Made scope t hook :=
    fun hmem ↦ (h.hooks scope t hook hmem).imp_right
      fun ⟨g, hg, hmade⟩ ↦ ⟨g, List.mem_append_left _ hg, hmade⟩
  change hook ∈ (s.registry.hooks.insert q.scope q.timing q.placement q.callback).2.bucket scope t
    at hhook
  by_cases hself : scope = q.scope ∧ q.timing = t
  · obtain ⟨rfl, rfl⟩ := hself
    rw [HookTable.bucket_insert_self] at hhook
    rcases HookTable.of_mem_placed hhook with ⟨n, rfl⟩ | hmem
    · exact .inr ⟨_, List.mem_append_right _ (List.mem_singleton_self _), .intro ..⟩
    · exact hold hmem
  · rw [HookTable.bucket_insert_of_ne _ _ _ hself] at hhook
    exact hold hhook

theorem unhook (h : s.AccountsFor first r) (hr : r.hooks.Sound) (handle : HookHandle) :
    s.AccountsFor first (r.unhook handle).2 := by
  refine ⟨h.steps, fun scope t hook hhook ↦ h.hooks scope t hook ?_⟩
  exact (hr.sublist_remove handle scope t).subset hhook

end AccountsFor

/-- The session is sound, it has given out numbers in order since it began, and it accounts for its
registry and its snapshots. -/
structure Accounted (first : Registry σ) (s : Session σ) : Prop where
  sound : s.Sound
  lastId_le : first.lastId ≤ s.registry.lastId
  hooks_lastId_le : first.hooks.lastId ≤ s.registry.hooks.lastId
  steps : Issued first.lastId s.registry.lastId (s.stepsMade.map (·.handle.id.number))
  hooks : Issued first.hooks.lastId s.registry.hooks.lastId (s.hooksMade.map (·.handle.id))
  held : s.AccountsFor first s.registry
  saved : ∀ saved ∈ s.snapshots, s.AccountsFor first saved.contents

namespace Accounted

variable {first : Registry σ} {s t : Session σ}

theorem start (h : first.Sound) : Accounted first (start first) where
  sound := .start h
  lastId_le := Nat.le_refl _
  hooks_lastId_le := Nat.le_refl _
  steps := .nil
  hooks := .nil
  held := ⟨fun _ hd ↦ .inl hd, fun _ _ _ hhook ↦ .inl hhook⟩
  saved _ h := absurd h List.not_mem_nil

/-- A later session without new registrations and snapshots. -/
theorem of_later (h : s.Accounted first) (hlater : s.Later t) (hsound : t.Sound)
    (hheld : t.AccountsFor first t.registry) (hsteps : t.stepsMade = s.stepsMade)
    (hhooks : t.hooksMade = s.hooksMade) (hsaved : t.snapshots = s.snapshots) :
    t.Accounted first where
  sound := hsound
  lastId_le := Nat.le_trans h.lastId_le hlater.lastId
  hooks_lastId_le := Nat.le_trans h.hooks_lastId_le hlater.hooksLastId
  steps := hsteps ▸ h.steps.mono hlater.lastId
  hooks := hhooks ▸ h.hooks.mono hlater.hooksLastId
  held := hheld
  saved saved hmem := (h.saved saved (hsaved ▸ hmem)).mono hlater

theorem withStep (h : s.Accounted first) {pattern : Text} {compiled : StepPattern}
    (hcompiled : StepPattern.ofText pattern = .ok compiled) (handler : Handler σ)
    (hlater : s.Later (s.withStep pattern compiled handler))
    (hsound : (s.withStep pattern compiled handler).Sound) :
    (s.withStep pattern compiled handler).Accounted first where
  sound := hsound
  lastId_le := Nat.le_trans h.lastId_le hlater.lastId
  hooks_lastId_le := Nat.le_trans h.hooks_lastId_le hlater.hooksLastId
  steps := by
    have hissued := h.steps.append h.lastId_le
    simpa [Session.withStep] using hissued
  hooks := h.hooks.mono hlater.hooksLastId
  held := h.held.withStep h.sound.registry.indexed hcompiled handler
  saved saved hmem := (h.saved saved hmem).mono hlater

theorem noteHook (h : s.Accounted first) (q : HookRequest σ) (hlater : s.Later (s.noteHook q))
    (hsound : (s.noteHook q).Sound) : (s.noteHook q).Accounted first where
  sound := hsound
  lastId_le := Nat.le_trans h.lastId_le hlater.lastId
  hooks_lastId_le := Nat.le_trans h.hooks_lastId_le hlater.hooksLastId
  steps := h.steps.mono hlater.lastId
  hooks := by
    have hissued := h.hooks.append h.hooks_lastId_le
    simpa [Session.noteHook, Registry.hook, HookTable.insert_eq] using hissued
  held := h.held.noteHook q
  saved saved hmem := (h.saved saved hmem).mono hlater

theorem perform (h : s.Accounted first) (a : Action σ) : (s.perform a).Accounted first := by
  have hlater := s.later_perform a
  have hsound := h.sound.perform a
  revert hlater hsound
  apply s.perform_cases a (P := fun t ↦ s.Later t → t.Sound → t.Accounted first)
  case unchanged => exact fun _ _ ↦ h
  case step =>
    exact fun pattern compiled handler hcompiled hlater hsound ↦
      h.withStep hcompiled handler hlater hsound
  case unregister =>
    intro handle hlater hsound
    have hheld := h.held.unregister h.sound.registry.indexed handle
    exact h.of_later hlater hsound (hheld.mono hlater) rfl rfl rfl
  case hook => exact fun q hlater hsound ↦ h.noteHook q hlater hsound
  case unhook =>
    intro handle hlater hsound
    have hheld := h.held.unhook h.sound.registry.hooks handle
    exact h.of_later hlater hsound (hheld.mono hlater) rfl rfl rfl
  case clear =>
    intro hlater hsound
    refine h.of_later hlater hsound ⟨?_, ?_⟩ rfl rfl rfl
    · exact fun _ hd ↦ absurd hd List.not_mem_nil
    · exact fun _ _ _ hhook ↦ absurd hhook List.not_mem_nil
  case snapshot =>
    intro hlater hsound
    refine ⟨hsound, h.lastId_le, h.hooks_lastId_le, h.steps, h.hooks, h.held.mono hlater, ?_⟩
    refine List.forall_mem_append.2 ⟨fun saved hmem ↦ (h.saved saved hmem).mono hlater, ?_⟩
    exact List.forall_mem_singleton.2 (h.held.mono hlater)
  case restore =>
    intro saved hmem hlater hsound
    have hheld := (h.saved saved hmem).mono hlater
    exact h.of_later hlater hsound ⟨hheld.steps, hheld.hooks⟩ rfl rfl rfl

theorem leave (h : s.Accounted first) (ht : t.Accounted first) (hlater : s.Later t) :
    (s.leave t).Accounted first := by
  have hheld := h.held.mono (hlater.trans (later_leave s t))
  exact ht.of_later (later_leave s t) (h.sound.leave ht.sound) ⟨hheld.steps, hheld.hooks⟩ rfl rfl rfl

end Accounted

end Session

theorem Script.accounted_session {first : Registry σ} (script : Script σ) {s : Session σ}
    (h : s.Accounted first) : (script.session s).Accounted first :=
  script.session_preserves (fun _ a hs ↦ hs.perform a) (fun _ _ hs ht hlater ↦ hs.leave ht hlater) h

/-! ## What a handle removes -/

/-- A hook of a list is known by its number. -/
theorem HookTable.InOrder.eq_of_id_eq {lastId lastInsertion : Nat} {t : Timing}
    {hooks : List (Hook σ t)} (h : HookTable.InOrder lastId lastInsertion hooks) {a b : Hook σ t}
    (ha : a ∈ hooks) (hb : b ∈ hooks) (heq : a.id = b.id) : a = b :=
  List.inj_on_of_nodup_map (List.pairwise_map.2 (h.apart.imp fun hab ↦ hab.2.1)) ha hb heq

theorem HookRegistration.Made.id_eq {g : HookRegistration σ} {scope : Scope} {t : Timing}
    {hook : Hook σ t} (h : g.Made scope t hook) : hook.id = g.handle.id := by
  cases h
  rfl

/-- The definition has the pattern and the number of the handle. -/
def StepDefinition.IsLike (d : StepDefinition σ) (handle : StepHandle) : Prop :=
  d.pattern.text = handle.pattern ∧ d.id = handle.id

namespace Registry

/-- The handle is good exactly for the definition that is like it. If that is there, it alone is
removed; else nothing changes. -/
structure RemovesLike (r : Registry σ) (handle : StepHandle) : Prop where
  found_iff : (r.unregister handle).1 = true ↔ ∃ d ∈ r.steps, d.IsLike handle
  removed : ∀ d ∈ r.steps, d.IsLike handle → ∃ before after, r.steps = before ++ d :: after ∧
    (r.unregister handle).2 =
      { r with steps := before ++ after, index := indexOf (before ++ after) }
  unchanged : (r.unregister handle).1 = false → (r.unregister handle).2 = r

/-- The handle is good exactly for the hook of its scope and timing that has its number. If that is
there, it alone is removed; else nothing changes. -/
structure UnhooksLike (r : Registry σ) (handle : HookHandle) : Prop where
  found_iff : (r.unhook handle).1 = true ↔
    ∃ hook ∈ r.hooks.bucket handle.scope handle.timing, hook.id = handle.id
  removed : ∀ hook ∈ r.hooks.bucket handle.scope handle.timing, hook.id = handle.id →
    ∃ before after, r.hooks.bucket handle.scope handle.timing = before ++ hook :: after ∧
      (r.unhook handle).2 = { r with
        hooks := r.hooks.putBucket handle.scope handle.timing (before ++ after) }
  unchanged : (r.unhook handle).1 = false → (r.unhook handle).2 = r

variable {r : Registry σ}

theorem Indexed.removesLike (h : r.Indexed) (handle : StepHandle) : r.RemovesLike handle := by
  rcases h.unregister_cases handle with ⟨heq, hnone⟩ |
    ⟨before, d, after, hsteps, hpattern, hid, heq⟩
  · have hnot : ¬∃ d ∈ r.steps, d.IsLike handle := fun ⟨d, hd, hlike⟩ ↦ hnone d hd hlike
    refine ⟨?_, fun d hd hlike ↦ absurd ⟨d, hd, hlike⟩ hnot, fun _ ↦ by rw [heq]⟩
    rw [heq]
    exact iff_of_false Bool.false_ne_true hnot
  · have hd : d ∈ r.steps := hsteps ▸ List.mem_append_right _ List.mem_cons_self
    refine ⟨?_, fun e he hlike ↦ ?_, fun hfalse ↦ ?_⟩
    · rw [heq]
      exact iff_of_true rfl ⟨d, hd, hpattern, hid⟩
    · -- no other definition has the pattern of the one that is taken out
      have hsame : e = d := List.inj_on_of_nodup_map h.nodup he hd (hlike.1.trans hpattern.symm)
      rw [hsame, heq]
      exact ⟨before, after, hsteps, rfl⟩
    · rw [heq] at hfalse
      cases hfalse

theorem unhooksLike (h : r.hooks.Sound) (handle : HookHandle) : r.UnhooksLike handle := by
  rcases h.remove_cases handle with ⟨heq, hnone⟩ | ⟨before, hook, after, hbucket, hid, heq⟩
  · have hunhook : r.unhook handle = (false, r) := by rw [unhook, heq]
    have hnot : ¬∃ hook ∈ r.hooks.bucket handle.scope handle.timing, hook.id = handle.id :=
      fun ⟨hook, hhook, hid⟩ ↦ hnone hook hhook hid
    refine ⟨?_, fun hook hhook hid ↦ absurd ⟨hook, hhook, hid⟩ hnot, fun _ ↦ by rw [hunhook]⟩
    rw [hunhook]
    exact iff_of_false Bool.false_ne_true hnot
  · have hunhook : r.unhook handle = (true, { r with
        hooks := r.hooks.putBucket handle.scope handle.timing (before ++ after) }) := by
      rw [unhook, heq]
    have hhook : hook ∈ r.hooks.bucket handle.scope handle.timing :=
      hbucket ▸ List.mem_append_right _ List.mem_cons_self
    refine ⟨?_, fun other hother hid' ↦ ?_, fun hfalse ↦ ?_⟩
    · rw [hunhook]
      exact iff_of_true rfl ⟨hook, hhook, hid⟩
    · -- no other hook of the list has the number of the one that is taken out
      have hsame : other = hook :=
        (h handle.scope handle.timing).eq_of_id_eq hother hhook (hid'.trans hid.symm)
      rw [hsame, hunhook]
      exact ⟨before, after, hbucket, rfl⟩
    · rw [hunhook] at hfalse
      cases hfalse

/-- The handle of a registration is good exactly for the definition that the registration made. If
that is there, it alone is removed; else nothing changes. -/
structure UnregistersOnly (r : Registry σ) (g : StepRegistration σ) : Prop where
  found_iff : (r.unregister g.handle).1 = true ↔ ∃ d ∈ r.steps, g.Made d
  removed : ∀ d ∈ r.steps, g.Made d → ∃ before after, r.steps = before ++ d :: after ∧
    (r.unregister g.handle).2 =
      { r with steps := before ++ after, index := indexOf (before ++ after) }
  unchanged : (r.unregister g.handle).1 = false → (r.unregister g.handle).2 = r

/-- The handle of a registration is good exactly for the hook that the registration made. If that is
there, it alone is removed; else nothing changes. -/
structure UnhooksOnly (r : Registry σ) (g : HookRegistration σ) : Prop where
  found_iff : (r.unhook g.handle).1 = true ↔
    ∃ hook ∈ r.hooks.bucket g.handle.scope g.handle.timing,
      g.Made g.handle.scope g.handle.timing hook
  removed : ∀ hook ∈ r.hooks.bucket g.handle.scope g.handle.timing,
    g.Made g.handle.scope g.handle.timing hook →
      ∃ before after, r.hooks.bucket g.handle.scope g.handle.timing = before ++ hook :: after ∧
        (r.unhook g.handle).2 = { r with
          hooks := r.hooks.putBucket g.handle.scope g.handle.timing (before ++ after) }
  unchanged : (r.unhook g.handle).1 = false → (r.unhook g.handle).2 = r

end Registry

namespace Session.Accounted

variable {first : Registry σ} {s : Session σ}

/-- Registrations have other numbers than the definitions that were there before them. -/
theorem id_ne_of_mem_first (h : s.Accounted first) (hfirst : first.Sound) {g : StepRegistration σ}
    (hg : g ∈ s.stepsMade) {d : StepDefinition σ} (hd : d ∈ first.steps) : d.id ≠ g.handle.id := by
  intro heq
  refine h.steps.not_mem (hfirst.numbered d hd) ?_
  rw [heq]
  exact List.mem_map_of_mem hg

/-- A definition with the number of a registration is the one that the registration made. -/
theorem made_of_id_eq (h : s.Accounted first) (hfirst : first.Sound) {g : StepRegistration σ}
    (hg : g ∈ s.stepsMade) {d : StepDefinition σ} (hd : d ∈ s.registry.steps)
    (hid : d.id = g.handle.id) : g.Made d := by
  rcases h.held.steps d hd with hold | ⟨g', hg', hmade⟩
  · exact absurd hid (h.id_ne_of_mem_first hfirst hg hold)
  · have hnumber : g'.handle.id.number = g.handle.id.number := by rw [← hmade.id, hid]
    rwa [h.steps.eq_of_number_eq hg' hg hnumber] at hmade

theorem made_of_hook_id_eq (h : s.Accounted first) (hfirst : first.Sound) {g : HookRegistration σ}
    (hg : g ∈ s.hooksMade) {scope : Scope} {t : Timing} {hook : Hook σ t}
    (hhook : hook ∈ s.registry.hooks.bucket scope t) (hid : hook.id = g.handle.id) :
    g.Made scope t hook := by
  rcases h.held.hooks scope t hook hhook with hold | ⟨g', hg', hmade⟩
  · have hle := (hfirst.hooks scope t).id_le hook hold
    rw [hid] at hle
    exact absurd (List.mem_map_of_mem hg) (h.hooks.not_mem hle)
  · rwa [h.hooks.eq_of_number_eq hg' hg (hmade.id_eq.symm.trans hid)] at hmade

theorem unregistersOnly (h : s.Accounted first) (hfirst : first.Sound) {g : StepRegistration σ}
    (hg : g ∈ s.stepsMade) : s.registry.UnregistersOnly g := by
  have hlike (d : StepDefinition σ) (hd : d ∈ s.registry.steps) : d.IsLike g.handle ↔ g.Made d :=
    ⟨fun hlike ↦ h.made_of_id_eq hfirst hg hd hlike.2, fun hmade ↦ ⟨hmade.pattern, hmade.id⟩⟩
  have hremoves := h.sound.registry.indexed.removesLike g.handle
  refine ⟨hremoves.found_iff.trans ?_, fun d hd hmade ↦ ?_, hremoves.unchanged⟩
  · exact exists_congr fun d ↦ and_congr_right (hlike d)
  · exact hremoves.removed d hd ((hlike d hd).2 hmade)

theorem unhooksOnly (h : s.Accounted first) (hfirst : first.Sound) {g : HookRegistration σ}
    (hg : g ∈ s.hooksMade) : s.registry.UnhooksOnly g := by
  have hlike (hook : Hook σ g.handle.timing)
      (hhook : hook ∈ s.registry.hooks.bucket g.handle.scope g.handle.timing) :
      hook.id = g.handle.id ↔ g.Made g.handle.scope g.handle.timing hook :=
    ⟨h.made_of_hook_id_eq hfirst hg hhook, HookRegistration.Made.id_eq⟩
  have hremoves := Registry.unhooksLike h.sound.registry.hooks g.handle
  refine ⟨hremoves.found_iff.trans ?_, fun hook hhook hmade ↦ ?_, hremoves.unchanged⟩
  · exact exists_congr fun hook ↦ and_congr_right (hlike hook)
  · exact hremoves.removed hook hhook ((hlike hook hhook).2 hmade)

end Session.Accounted

namespace Registry

/-- Whatever a script does to a registry of declared steps, all steps that it registered have
numbers of their own, which are not those of declared steps, and so have all hooks; and the handle
of each registration removes what the registration made, if it is there, and nothing else. -/
theorem handles_remove_only_their_own {ds : List (DeclaredStep σ)} {r : Registry σ}
    (h : Registry.ofDeclarations ds = .ok r) (script : Script σ) :
    ∃ (outcome : Outcome Empty Unit) (s : Session σ),
      script.run Session.interpretation (.start r) = (outcome, s) ∧
      (r.steps.map (·.id) ++ s.stepsMade.map (·.handle.id)).Nodup ∧
      (s.hooksMade.map (·.handle.id)).Nodup ∧
      (∀ g ∈ s.stepsMade, s.registry.UnregistersOnly g) ∧
      ∀ g ∈ s.hooksMade, s.registry.UnhooksOnly g := by
  have hsound := Sound.ofDeclarations h
  have hs := script.accounted_session (.start hsound)
  generalize hsession : script.session (.start r) = s at hs
  refine ⟨_, s, Prod.ext rfl hsession, ?_, hs.hooks.nodup, fun g hg ↦ hs.unregistersOnly hsound hg,
    fun g hg ↦ hs.unhooksOnly hsound hg⟩
  have hmade : (s.stepsMade.map (·.handle.id)).Nodup := by
    refine List.Nodup.of_map StepId.number ?_
    rw [List.map_map]
    exact hs.steps.nodup
  refine List.nodup_append.2 ⟨List.pairwise_map.2 hsound.apart, hmade, ?_⟩
  intro id hid id' hid' heq
  obtain ⟨d, hd, rfl⟩ := List.mem_map.1 hid
  obtain ⟨g, hg, rfl⟩ := List.mem_map.1 hid'
  exact hs.id_ne_of_mem_first hsound hg hd heq

/-- A definition and a hook that are replaced or removed for a time and then brought back. -/
theorem handles_remove_only_their_own_there_and_back :
    Registry.ofDeclarations [anyStep] = .ok ofAnyStep ∧
    ∃ (outcome : Outcome Empty Unit) (s : Session Nat),
      Script.thereAndBack.run Session.interpretation (.start ofAnyStep) = (outcome, s) ∧
      (ofAnyStep.steps.map (·.id) ++ s.stepsMade.map (·.handle.id)).Nodup ∧
      (s.hooksMade.map (·.handle.id)).Nodup ∧
      (∀ g ∈ s.stepsMade, s.registry.UnregistersOnly g) ∧
      ∀ g ∈ s.hooksMade, s.registry.UnhooksOnly g :=
  ⟨ofDeclarations_anyStep, handles_remove_only_their_own ofDeclarations_anyStep .thereAndBack⟩

end Registry

end Gherkin
