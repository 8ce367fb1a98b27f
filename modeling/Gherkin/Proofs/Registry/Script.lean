import Gherkin.Proofs.Hooks.Places
import Gherkin.Proofs.Registry.Positions

/-!
# What is done with a registry

A script says what a program does with one registry from first to last: it registers and removes
steps and hooks, clears the registry, takes snapshots and goes back to them, and runs parts of
itself in blocks whose changes do not outlive them. A part may break off, which ends the blocks
around it up to the place where it is caught.

A script can be read in several ways; the sessions of a registry are one of them. A session keeps
the snapshots that were taken and a record of every registration, so that what a handle was given
for can be told later.

Main statements: whatever a script does, a session only moves forward (`Script.later_run`), and two
readings that agree on single actions and on the ends of blocks agree on scripts
(`Script.run_related`).
-/

namespace Gherkin

variable {σ τ : Type}

/-- One thing that is done with a registry. Handles may be any; a snapshot is told by its number
among those that were taken. -/
inductive Action (σ : Type) where
  | register (pattern : Text) (handler : Handler σ)
  | registerNamed (name : Text) (handler : Handler σ)
  | registerDocumented (documentation : Text) (handler : Handler σ)
  | unregister (handle : StepHandle)
  | hook (scope : Scope) (timing : Timing) (placement : HookPlacement)
      (callback : Callback σ timing)
  | unhook (handle : HookHandle)
  | clear
  | snapshot
  | restore (number : Nat)

/-- What a program does with a registry. -/
inductive Script (σ : Type) where
  /-- Nothing more is done. -/
  | done
  /-- The program breaks off. -/
  | breakOff (payload : Payload)
  /-- One action and what comes after it. -/
  | act (action : Action σ) (rest : Script σ)
  /-- A block whose changes do not outlive it. If it breaks off, nothing comes after it. -/
  | block (body rest : Script σ)
  /-- A part that may break off without keeping the rest from being run. -/
  | caught (body rest : Script σ)

/-- A way to read scripts as changes of a state: what an action does to it, and what is left of the
state at the end of a block that was entered in the first state and ended in the second. -/
structure Interpretation (σ τ : Type) where
  perform : τ → Action σ → τ
  leave : τ → τ → τ

/-- Runs a call within a block. -/
def Interpretation.block {ε α : Type} (m : Interpretation σ τ) (body : Call τ ε α) : Call τ ε α :=
  fun s ↦
    let (outcome, ended) := body s
    (outcome, m.leave s ended)

/-- Runs a script, which may break off but has no errors of its own. -/
def Script.run (m : Interpretation σ τ) : Script σ → Call τ Empty Unit
  | done => .pure ()
  | breakOff p => fun s ↦ (.panic p, s)
  | act a rest => fun s ↦ rest.run m (m.perform s a)
  | block body rest => (m.block (body.run m)).andThen fun _ ↦ rest.run m
  | caught body rest => fun s ↦ rest.run m (body.run m s).2

/-- A registration of a step that succeeded. -/
structure StepRegistration (σ : Type) where
  handle : StepHandle
  handler : Handler σ

/-- The definition is the one that the registration made. -/
structure StepRegistration.Made (g : StepRegistration σ) (d : StepDefinition σ) : Prop where
  id : d.id = g.handle.id
  pattern : d.pattern.text = g.handle.pattern
  handler : d.handler = g.handler
  origin : d.origin = none

/-- A registration of a hook. -/
structure HookRegistration (σ : Type) where
  handle : HookHandle
  request : HookRequest σ

/-- The hook of a scope is the one that the registration made. -/
inductive HookRegistration.Made :
    HookRegistration σ → Scope → (t : Timing) → Hook σ t → Prop
  | intro (scope : Scope) (t : Timing) (placement : HookPlacement) (callback : Callback σ t)
    (id insertion : Nat) :
    Made ⟨⟨scope, t, placement.name, id⟩, ⟨scope, t, placement, callback⟩⟩ scope t
      ⟨placement.name, id, placement.priority, placement.tier, insertion, callback⟩

/-- A registry with the snapshots that were taken of it and all registrations, oldest first. -/
structure Session (σ : Type) where
  registry : Registry σ
  snapshots : List (Registry.Snapshot σ) := []
  stepsMade : List (StepRegistration σ) := []
  hooksMade : List (HookRegistration σ) := []

namespace Session

def start (r : Registry σ) : Session σ := { registry := r }

/-- The session after the registration of a handler. One that is refused leaves everything as it
is. -/
def noteStep (s : Session σ) (handler : Handler σ) :
    Except DefinitionError (StepHandle × Registry σ) → Session σ
  | .error _ => s
  | .ok (handle, r) => { s with registry := r, stepsMade := s.stepsMade ++ [⟨handle, handler⟩] }

/-- The session after the registration of a hook. -/
def noteHook (s : Session σ) (q : HookRequest σ) : Session σ :=
  let (handle, r) := s.registry.hook q.scope q.timing q.placement q.callback
  { s with registry := r, hooksMade := s.hooksMade ++ [⟨handle, q⟩] }

/-- The session after an action. -/
def perform (s : Session σ) : Action σ → Session σ
  | .register pattern handler => s.noteStep handler (s.registry.register pattern handler none)
  | .registerNamed name handler => s.noteStep handler (s.registry.registerNamed name handler)
  | .registerDocumented documentation handler =>
    s.noteStep handler (s.registry.registerDocumented documentation handler)
  | .unregister handle => { s with registry := (s.registry.unregister handle).2 }
  | .hook scope t placement callback => s.noteHook ⟨scope, t, placement, callback⟩
  | .unhook handle => { s with registry := (s.registry.unhook handle).2 }
  | .clear => { s with registry := s.registry.clear }
  | .snapshot => { s with snapshots := s.snapshots ++ [s.registry.snapshot] }
  | .restore number =>
    match s.snapshots[number]? with
    | none => s
    | some saved => { s with registry := s.registry.restore saved }

/-- The session after a block. The registry is what it was on entry; what else was done in the block
is remembered. -/
def leave (entry ended : Session σ) : Session σ :=
  { ended with registry := (entry.registry.temporarily fun _ ↦ ((), ended.registry)).2 }

def interpretation : Interpretation σ (Session σ) := ⟨perform, leave⟩

/-- The session after the registration of a step that is not refused. -/
def withStep (s : Session σ) (pattern : Text) (compiled : StepPattern) (handler : Handler σ) :
    Session σ :=
  { s with
    registry := s.registry.withStep compiled handler none
    stepsMade := s.stepsMade ++ [⟨⟨⟨s.registry.lastId + 1⟩, pattern⟩, handler⟩] }

/-- A handler is registered under the pattern that a text spells, if there is such a text. -/
theorem noteStep_cases (s : Session σ) (handler : Handler σ)
    (reading : Except DefinitionError Text) :
    (s.noteStep handler (reading >>= fun pattern ↦ s.registry.register pattern handler none) = s ∧
      ∀ pattern compiled, reading = .ok pattern → StepPattern.ofText pattern ≠ .ok compiled) ∨
    ∃ pattern compiled, reading = .ok pattern ∧ StepPattern.ofText pattern = .ok compiled ∧
      s.noteStep handler (reading >>= fun pattern ↦ s.registry.register pattern handler none) =
        s.withStep pattern compiled handler := by
  cases reading with
  | error e => exact .inl ⟨rfl, fun _ _ h ↦ by cases h⟩
  | ok pattern =>
    change (s.noteStep handler (s.registry.register pattern handler none) = s ∧ _) ∨ _
    cases hregister : s.registry.register pattern handler none with
    | error e =>
      refine .inl ⟨rfl, fun pattern' compiled h hcompiled ↦ ?_⟩
      cases h
      rw [Registry.register_of_ok hcompiled] at hregister
      cases hregister
    | ok made =>
      obtain ⟨handle, r⟩ := made
      obtain ⟨compiled, hcompiled, rfl, rfl⟩ := Registry.register_eq_ok_iff.1 hregister
      refine .inr ⟨pattern, compiled, rfl, hcompiled, ?_⟩
      change s.noteStep handler (s.registry.register pattern handler none) = _
      rw [hregister]
      rfl

/-- What holds after each thing that an action can do holds after the action. -/
theorem perform_cases {P : Session σ → Prop} (s : Session σ) (a : Action σ) (unchanged : P s)
    (step : ∀ pattern compiled handler, StepPattern.ofText pattern = .ok compiled →
      P (s.withStep pattern compiled handler))
    (unregister : ∀ handle, P { s with registry := (s.registry.unregister handle).2 })
    (hook : ∀ request, P (s.noteHook request))
    (unhook : ∀ handle, P { s with registry := (s.registry.unhook handle).2 })
    (clear : P { s with registry := s.registry.clear })
    (snapshot : P { s with snapshots := s.snapshots ++ [s.registry.snapshot] })
    (restore : ∀ saved ∈ s.snapshots, P { s with registry := s.registry.restore saved }) :
    P (s.perform a) := by
  have hnote : ∀ handler reading, P (s.noteStep handler
      (reading >>= fun pattern ↦ s.registry.register pattern handler none)) := by
    intro handler reading
    rcases s.noteStep_cases handler reading with ⟨heq, -⟩ | ⟨pattern, compiled, -, hcompiled, heq⟩
    · rw [heq]
      exact unchanged
    · rw [heq]
      exact step pattern compiled handler hcompiled
  cases a with
  | register pattern handler => exact hnote handler (.ok pattern)
  | registerNamed name handler => exact hnote handler (sentenceOfName name)
  | registerDocumented documentation handler =>
    exact hnote handler (sentenceOfDocumentation documentation)
  | unregister handle => exact unregister handle
  | hook scope t placement callback => exact hook ⟨scope, t, placement, callback⟩
  | unhook handle => exact unhook handle
  | clear => exact clear
  | snapshot => exact snapshot
  | restore number =>
    rw [perform]
    split
    · exact unchanged
    · next saved hsaved => exact restore saved (List.mem_of_getElem? hsaved)

/-- The second session comes after the first: numbers were given out and things were remembered,
and nothing of that is taken back. -/
structure Later (s t : Session σ) : Prop where
  lastId : s.registry.lastId ≤ t.registry.lastId
  hooksLastId : s.registry.hooks.lastId ≤ t.registry.hooks.lastId
  snapshots : s.snapshots <+: t.snapshots
  stepsMade : s.stepsMade <+: t.stepsMade
  hooksMade : s.hooksMade <+: t.hooksMade

namespace Later

variable {s t u : Session σ}

theorem refl (s : Session σ) : s.Later s :=
  ⟨Nat.le_refl _, Nat.le_refl _, List.prefix_rfl, List.prefix_rfl, List.prefix_rfl⟩

theorem trans (h : s.Later t) (h' : t.Later u) : s.Later u where
  lastId := Nat.le_trans h.lastId h'.lastId
  hooksLastId := Nat.le_trans h.hooksLastId h'.hooksLastId
  snapshots := h.snapshots.trans h'.snapshots
  stepsMade := h.stepsMade.trans h'.stepsMade
  hooksMade := h.hooksMade.trans h'.hooksMade

/-- A change of the registry alone that takes no number back. -/
theorem withRegistry {r : Registry σ} (hid : s.registry.lastId ≤ r.lastId)
    (hhooks : s.registry.hooks.lastId ≤ r.hooks.lastId) : s.Later { s with registry := r } :=
  ⟨hid, hhooks, List.prefix_rfl, List.prefix_rfl, List.prefix_rfl⟩

end Later

theorem later_perform (s : Session σ) (a : Action σ) : s.Later (s.perform a) := by
  apply s.perform_cases a
  case unchanged => exact .refl s
  case step =>
    intro pattern compiled handler _
    refine ⟨?_, ?_, List.prefix_rfl, List.prefix_append .., List.prefix_rfl⟩
    · simp [withStep]
    · simp [withStep]
  case unregister =>
    intro handle
    exact .withRegistry (Nat.le_of_eq (Registry.unregister_lastId ..).symm)
      (Nat.le_of_eq (congrArg HookTable.lastId (Registry.unregister_hooks ..)).symm)
  case hook =>
    intro q
    exact ⟨Nat.le_refl _, Nat.le_succ _, List.prefix_rfl, List.prefix_rfl, List.prefix_append ..⟩
  case unhook =>
    intro handle
    exact .withRegistry (Nat.le_refl _) (Nat.le_of_eq (HookTable.lastId_remove ..).symm)
  case clear => exact .withRegistry (Nat.le_refl _) (Nat.le_refl _)
  case snapshot =>
    exact ⟨Nat.le_refl _, Nat.le_refl _, List.prefix_append .., List.prefix_rfl, List.prefix_rfl⟩
  case restore =>
    intro saved _
    exact .withRegistry (Nat.le_max_right _ _) (Nat.le_max_right _ _)

/-- Nothing of what was done in a block is taken back but the changes of the registry. -/
theorem later_leave (s t : Session σ) : t.Later (s.leave t) :=
  .withRegistry (Nat.le_max_right _ _) (Nat.le_max_right _ _)

end Session

namespace Script

/-- The session that a script leaves behind, in whichever way it ends. -/
def session (script : Script σ) (s : Session σ) : Session σ :=
  (script.run Session.interpretation s).2

section Runs

variable (m : Interpretation σ τ) (body rest : Script σ) (s : τ)

/-- After a block comes the rest, unless the block broke off. -/
theorem run_block :
    (block body rest).run m s =
      match (body.run m s).1 with
      | .ok () => rest.run m (m.leave s (body.run m s).2)
      | .panic p => (.panic p, m.leave s (body.run m s).2) := by
  rw [run, Call.andThen, Interpretation.block]
  rcases body.run m s with ⟨_ | e | p, ended⟩
  · rfl
  · exact e.elim
  · rfl

end Runs

theorem later_run (script : Script σ) (s : Session σ) : s.Later (script.session s) := by
  unfold session
  induction script generalizing s with
  | done => exact .refl s
  | breakOff p => exact .refl s
  | act a rest ih => exact (s.later_perform a).trans (ih _)
  | block body rest ihbody ihrest =>
    have hleft := (ihbody s).trans (s.later_leave (body.session s))
    rw [run_block]
    split
    · exact hleft.trans (ihrest _)
    · exact hleft
  | caught body rest ihbody ihrest => exact (ihbody s).trans (ihrest _)

/-- A property that each action of a script has. -/
def Each (P : Action σ → Prop) : Script σ → Prop
  | done | breakOff _ => True
  | act a rest => P a ∧ rest.Each P
  | block body rest | caught body rest => body.Each P ∧ rest.Each P

theorem each_of_forall {P : Action σ → Prop} (h : ∀ a, P a) (script : Script σ) :
    script.Each P := by
  induction script with
  | done | breakOff => trivial
  | act a _ ih => exact ⟨h a, ih⟩
  | block _ _ ihbody ihrest | caught _ _ ihbody ihrest => exact ⟨ihbody, ihrest⟩

/-- Two readings of scripts that agree on single actions of some kind and on the ends of blocks
agree on scripts of such actions: they end in the same way, and in states that belong together. -/
theorem run_related_of_each {m : Interpretation σ τ} {R : Session σ → τ → Prop}
    {P : Action σ → Prop} (hact : ∀ s t a, P a → R s t → R (s.perform a) (m.perform t a))
    (hleave : ∀ s t s' t', R s t → R s' t' → s.Later s' → R (s.leave s') (m.leave t t'))
    {script : Script σ} (hscript : script.Each P) {s : Session σ} {t : τ} (h : R s t) :
    (script.run Session.interpretation s).1 = (script.run m t).1 ∧
      R (script.session s) (script.run m t).2 := by
  unfold session
  induction script generalizing s t with
  | done => exact ⟨rfl, h⟩
  | breakOff p => exact ⟨rfl, h⟩
  | act a rest ih => exact ih hscript.2 (hact s t a hscript.1 h)
  | block body rest ihbody ihrest =>
    obtain ⟨hend, hbody⟩ := ihbody hscript.1 h
    have hleft := hleave s t _ _ h hbody (body.later_run s)
    rw [run_block, run_block, hend]
    split
    · exact ihrest hscript.2 hleft
    · exact ⟨rfl, hleft⟩
  | caught body rest ihbody ihrest => exact ihrest hscript.2 (ihbody hscript.1 h).2

/-- Two readings of scripts that agree on all single actions and on the ends of blocks agree. -/
theorem run_related {m : Interpretation σ τ} {R : Session σ → τ → Prop}
    (hact : ∀ s t a, R s t → R (s.perform a) (m.perform t a))
    (hleave : ∀ s t s' t', R s t → R s' t' → s.Later s' → R (s.leave s') (m.leave t t'))
    (script : Script σ) {s : Session σ} {t : τ} (h : R s t) :
    (script.run Session.interpretation s).1 = (script.run m t).1 ∧
      R (script.session s) (script.run m t).2 :=
  run_related_of_each (P := fun _ ↦ True) (fun s t a _ ↦ hact s t a) hleave
    (each_of_forall (fun _ ↦ trivial) script) h

/-- What actions of some kind and the ends of blocks keep is kept by scripts of such actions. -/
theorem session_preserves_of_each {I : Session σ → Prop} {P : Action σ → Prop}
    (hact : ∀ s a, P a → I s → I (s.perform a))
    (hleave : ∀ s s', I s → I s' → s.Later s' → I (s.leave s')) {script : Script σ}
    (hscript : script.Each P) {s : Session σ} (h : I s) : I (script.session s) :=
  (run_related_of_each (m := ⟨fun _ _ ↦ (), fun _ _ ↦ ()⟩) (R := fun s (_ : Unit) ↦ I s)
    (fun s _ a ↦ hact s a) (fun _ _ s' _ ↦ hleave _ s') hscript (t := ()) h).2

/-- What actions and the ends of blocks keep is kept by scripts. -/
theorem session_preserves {I : Session σ → Prop} (hact : ∀ s a, I s → I (s.perform a))
    (hleave : ∀ s s', I s → I s' → s.Later s' → I (s.leave s')) (script : Script σ)
    {s : Session σ} (h : I s) : I (script.session s) :=
  session_preserves_of_each (P := fun _ ↦ True) (fun s a _ ↦ hact s a) hleave
    (each_of_forall (fun _ ↦ trivial) script) h

end Script

end Gherkin
