import Gherkin.Proofs.Registry.Sound

/-!
# Going back

A registry that goes back to a snapshot holds what it held when the snapshot was taken: the same
definitions and the same hooks in the same order. Only the numbers that were given out since are
not given out again. The place of a hook among others does not depend on those numbers, so hooks
under new names come after the ones that were brought back, as after any others.

Main statements: going back to a snapshot brings back what the registry held
(`Registry.rolledBackTo_restore`), new names come last on the way in
(`Registry.Sound.newNamesComeLast`), and both hold after any script, while blocks go back by
themselves (`Registry.snapshots_and_blocks_roll_back`).
-/

namespace Gherkin

variable {σ : Type}

namespace Registry

/-- The first registry holds what the second one does and behaves like it. Only its counters may
have gone on. -/
structure RolledBackTo (r' r : Registry σ) : Prop where
  contents : r' = { r with
    lastId := r'.lastId
    hooks := { r.hooks with lastId := r'.hooks.lastId } }
  lastId_le : r.lastId ≤ r'.lastId
  hooks_lastId_le : r.hooks.lastId ≤ r'.hooks.lastId
  steps : r'.steps = r.steps
  ordered : ∀ (scope : Scope) (t : Timing), r'.hooks.ordered scope t = r.hooks.ordered scope t
  matchSentence : ∀ sentence, r'.matchSentence sentence = r.matchSentence sentence
  matchStep : ∀ s, r'.matchStep s = r.matchStep s
  wrap : ∀ {ε α : Type} (scope : Scope) (target : HookSubject) (call : Call σ ε α),
    r'.wrap scope target call = r.wrap scope target call

/-- A wrap is made of the hooks in order and of nothing else. -/
theorem wrap_congr {ε α : Type} {r r' : Registry σ} {scope : Scope}
    (h : ∀ t, r'.hooks.ordered scope t = r.hooks.ordered scope t) (target : HookSubject)
    (call : Call σ ε α) : r'.wrap scope target call = r.wrap scope target call := by
  unfold wrap bracket Bracket.ofTable
  rw [h .before, h .around, h .after]

theorem rolledBackTo_restore (r now : Registry σ) : (now.restore r.snapshot).RolledBackTo r where
  contents := rfl
  lastId_le := Nat.le_max_left _ _
  hooks_lastId_le := Nat.le_max_left _ _
  steps := rfl
  ordered _ _ := rfl
  matchSentence _ := rfl
  matchStep _ := rfl
  wrap _ target call := wrap_congr (fun _ ↦ rfl) target call

/-- Whatever is run on a registry for a time, and however it ends, the registry goes back to what it
was. -/
theorem rolledBackTo_temporarily {α : Type} (r : Registry σ) (body : Registry σ → α × Registry σ) :
    (r.temporarily body).2.RolledBackTo r := rolledBackTo_restore r (body r).2

def hookAll (r : Registry σ) (requests : List (HookRequest σ)) : Registry σ :=
  requests.foldl (fun r q ↦ (r.hook q.scope q.timing q.placement q.callback).2) r

theorem hooks_hookAll (r : Registry σ) (requests : List (HookRequest σ)) :
    (r.hookAll requests).hooks = r.hooks.insertAll requests := by
  induction requests generalizing r with
  | nil => rfl
  | cons q requests ih => exact ih (r.hook q.scope q.timing q.placement q.callback).2

/-- Whatever hooks are registered from here on, those under new names are run on the way in after
those whose names were there, if neither tier nor priority tells them apart. -/
def NewNamesComeLast (r : Registry σ) : Prop :=
  ∀ (requests : List (HookRequest σ)) (scope : Scope) (t : Timing), t ≠ .after →
    ∀ old ∈ (r.hookAll requests).hooks.bucket scope t,
    ∀ new ∈ (r.hookAll requests).hooks.bucket scope t,
      old.name ∈ (r.hooks.bucket scope t).map Hook.name →
      new.name ∉ (r.hooks.bucket scope t).map Hook.name →
      old.tier = new.tier → old.priority = new.priority →
        [old, new].Sublist ((r.hookAll requests).hooks.ordered scope t)

theorem Sound.newNamesComeLast {r : Registry σ} (h : r.Sound) : r.NewNamesComeLast := by
  intro requests scope t ht old hold new hnew holdName hnewName htier hpriority
  rw [hooks_hookAll] at *
  exact (h.hooks.insertAll requests).pair_sublist_ordered ht
    (HookTable.map_name_prefix_insertAll r.hooks requests scope t) hold hnew holdName hnewName htier
    hpriority

end Registry

namespace Session

/-- A snapshot can be gone back to at any later time. -/
theorem perform_restore_of_later {s t : Session σ} (h : (s.perform .snapshot).Later t) :
    t.perform (.restore s.snapshots.length) =
      { t with registry := t.registry.restore s.registry.snapshot } := by
  have hsaved : t.snapshots[s.snapshots.length]? = some s.registry.snapshot := by
    obtain ⟨more, hmore⟩ := h.snapshots
    rw [← hmore]
    change (s.snapshots ++ [s.registry.snapshot] ++ more)[s.snapshots.length]? = _
    simp
  simp only [perform, hsaved]

end Session

/-- A block ends as its body does. -/
theorem Script.run_block_done (body : Script σ) (s : Session σ) :
    (Script.block body .done).run Session.interpretation s =
      ((body.run Session.interpretation s).1, s.leave (body.session s)) := by
  rw [Script.run_block]
  split
  · next h => rw [h]; rfl
  · next h => rw [h]; rfl

namespace Registry

/-- Whatever is done with a registry of declared steps before and after a snapshot is taken, going
back to it brings back what the registry held then, and hooks under new names come last from then
on, whatever else is done. A block goes back to what the registry held on entry, whether it returns
or breaks off. -/
theorem snapshots_and_blocks_roll_back {ds : List (DeclaredStep σ)} {r : Registry σ}
    (h : Registry.ofDeclarations ds = .ok r) (before since : Script σ) :
    ∃ s t back : Session σ,
      before.session (.start r) = s ∧
      since.session (s.perform .snapshot) = t ∧
      t.perform (.restore s.snapshots.length) = back ∧
      back.registry.RolledBackTo s.registry ∧
      (∀ after : Script σ, (after.session back).registry.NewNamesComeLast) ∧
      (∀ (entry : Session σ) (body : Script σ), ∃ (outcome : Outcome Empty Unit) (left : Session σ),
        (body.run Session.interpretation entry).1 = outcome ∧
        (Script.block body .done).run Session.interpretation entry = (outcome, left) ∧
        left.registry.RolledBackTo entry.registry) ∧
      ∀ {α : Type} (entry : Registry σ) (body : Registry σ → α × Registry σ),
        (entry.temporarily body).1 = (body entry).1 ∧
        (entry.temporarily body).2.RolledBackTo entry := by
  have hs := before.sound_session (.start (Sound.ofDeclarations h))
  have hback := (since.sound_session (hs.perform .snapshot)).perform
    (.restore (before.session (.start r)).snapshots.length)
  refine ⟨_, _, _, rfl, rfl, rfl, ?_, fun after ↦ ?_, fun entry body ↦ ?_, fun entry body ↦ ?_⟩
  · rw [Session.perform_restore_of_later (since.later_run _)]
    exact rolledBackTo_restore _ _
  · exact (after.sound_session hback).registry.newNamesComeLast
  · exact ⟨_, _, rfl, body.run_block_done entry, rolledBackTo_restore _ _⟩
  · exact ⟨rfl, rolledBackTo_temporarily entry body⟩

/-- A snapshot between two runs in which the registry goes there and back already. -/
theorem snapshots_and_blocks_roll_back_there_and_back :
    Registry.ofDeclarations [anyStep] = .ok ofAnyStep ∧
    ∃ s t back : Session Nat,
      Script.thereAndBack.session (.start ofAnyStep) = s ∧
      Script.thereAndBack.session (s.perform .snapshot) = t ∧
      t.perform (.restore s.snapshots.length) = back ∧
      back.registry.RolledBackTo s.registry ∧
      (∀ after : Script Nat, (after.session back).registry.NewNamesComeLast) ∧
      (∀ (entry : Session Nat) (body : Script Nat),
        ∃ (outcome : Outcome Empty Unit) (left : Session Nat),
          (body.run Session.interpretation entry).1 = outcome ∧
          (Script.block body .done).run Session.interpretation entry = (outcome, left) ∧
          left.registry.RolledBackTo entry.registry) ∧
      ∀ {α : Type} (entry : Registry Nat) (body : Registry Nat → α × Registry Nat),
        (entry.temporarily body).1 = (body entry).1 ∧
        (entry.temporarily body).2.RolledBackTo entry :=
  ⟨ofDeclarations_anyStep,
    snapshots_and_blocks_roll_back ofDeclarations_anyStep .thereAndBack .thereAndBack⟩

end Registry

end Gherkin
