import Gherkin.Proofs.Hooks.Observers
import Gherkin.Proofs.Hooks.RunOrder
import Gherkin.Proofs.Registry.ForeignHandles

/-!
# One more hook

A hook under a name of its own is registered somewhere in a script, and the script goes on as it
would without it; only the numbers of the hooks that come later are larger by one. Whatever is
registered, removed, cleared and restored before and after, the other hooks stand in the tables in
the same order as in a run without the additional hook, so that they are run in the same order.

Main statement: a call that a registry wraps ends in the same way, and the other hooks do what they
did, if a hook that is not noticed is added at any point of what is done with the registry
(`wrap_unchanged_by_unseen_hook`).
-/

namespace Gherkin

variable {σ υ ε α β : Type} {t : Timing}

/-- Lists that belong together item by item have as many items. -/
theorem forall₂_getElem? {R : α → β → Prop} {as : List α} {bs : List β}
    (h : List.Forall₂ R as bs) (n : Nat) :
    (as[n]? = none ∧ bs[n]? = none) ∨ ∃ a b, as[n]? = some a ∧ bs[n]? = some b ∧ R a b := by
  induction h generalizing n with
  | nil => exact .inl ⟨rfl, rfl⟩
  | cons hab _ ih =>
    cases n with
    | zero => exact .inr ⟨_, _, rfl, rfl, hab⟩
    | succ n => exact ih n

/-- Whether the hooks of a place with this name are others than the one that is asked for. -/
def HookRequest.isOther (o : HookRequest σ) (scope : Scope) (t : Timing) (name : Text) : Bool :=
  decide ¬(o.scope = scope ∧ o.timing = t ∧ o.placement.name = name)

@[simp] theorem HookRequest.isOther_self (o : HookRequest σ) :
    o.isOther o.scope o.timing o.placement.name = false := by
  simp [isOther]

/-- The number of a registration after one more was made when `k` numbers were given out. -/
def past (k id : Nat) : Nat := if id ≤ k then id else id + 1

section Past

variable {k id id' : Nat}

theorem past_of_le (h : id ≤ k) : past k id = id := if_pos h

theorem past_succ_of_le (h : k ≤ id) : past k (id + 1) = id + 1 + 1 :=
  if_neg (Nat.not_le.2 (Nat.lt_succ_of_le h))

theorem past_inj : past k id = past k id' ↔ id = id' := by
  unfold past
  split <;> split <;> omega

end Past

/-- The handle of the same registration after one more was made. -/
def HookHandle.past (k : Nat) (handle : HookHandle) : HookHandle :=
  { handle with id := Gherkin.past k handle.id }

/-- The same hook with the number that it has past another one. -/
structure Hook.Renumbered (k : Nat) (h h' : Hook σ t) : Prop where
  placement : h.placement = h'.placement
  callback : h.callback = h'.callback
  id : h'.id = past k h.id

theorem Hook.Renumbered.name {k : Nat} {h h' : Hook σ t} (hh : h.Renumbered k h') :
    h.name = h'.name := congrArg HookPlacement.name hh.placement

/-! ## Tables -/

namespace HookTable

/-- No hook of the table has the name at the place of the one that is asked for. -/
def Lacks (o : HookRequest σ) (table : HookTable σ) : Prop :=
  ∀ scope t, ∀ h ∈ table.bucket scope t, o.isOther scope t h.name

/-- The second table has the hooks of the first and perhaps the one that was asked for. -/
structure Beside (o : HookRequest σ) (k : Nat) (table table' : HookTable σ) : Prop where
  others (scope : Scope) (t : Timing) :
    List.Forall₂ (Hook.Renumbered k) (table.bucket scope t)
      ((table'.bucket scope t).filter fun h ↦ o.isOther scope t h.name)
  own : ∀ h ∈ table'.bucket o.scope o.timing, h.name = o.placement.name → h.callback = o.callback

/-- A registration under one of the other names has no part in the rest. -/
theorem filter_placed (others : Text → Bool) {options : HookPlacement} (h : others options.name)
    {id insertion : Nat} {callback : Callback σ t} (hooks : List (Hook σ t)) :
    (placed options id insertion callback hooks).filter (fun h ↦ others h.name) =
      placed options id insertion callback (hooks.filter fun h ↦ others h.name) := by
  have hany : (hooks.filter fun h ↦ others h.name).any (·.name = options.name) =
      hooks.any (·.name = options.name) := by
    rw [List.any_filter]
    congr 1
    funext hook
    by_cases hname : hook.name = options.name <;> simp [hname, h]
  have hreplaced : (fun h : Hook σ t ↦ others h.name) ∘ replaced options id callback =
      fun h ↦ others h.name := by
    funext hook
    simp
  rw [placed_eq_map_append, placed_eq_map_append, hany, List.filter_append, List.filter_map,
    hreplaced]
  split
  · rfl
  · simp [h]

section Lacks

variable {o : HookRequest σ} {table : HookTable σ}

theorem Lacks.filter_eq (h : table.Lacks o) (scope : Scope) (t : Timing) :
    (table.bucket scope t).filter (fun h ↦ o.isOther scope t h.name) = table.bucket scope t :=
  List.filter_eq_self.2 (h scope t)

theorem Lacks.name_ne (h : table.Lacks o) :
    ∀ g ∈ table.bucket o.scope o.timing, g.name ≠ o.placement.name := by
  intro g hg hname
  have hother := h o.scope o.timing g hg
  rw [hname, o.isOther_self] at hother
  cases hother

theorem Lacks.insert (h : table.Lacks o) (scope : Scope) (t : Timing) (p : HookPlacement)
    (callback : Callback σ t) (hother : o.isOther scope t p.name) :
    (table.insert scope t p callback).2.Lacks o := by
  intro s u hook hmem
  by_cases hself : s = scope ∧ t = u
  · obtain ⟨rfl, rfl⟩ := hself
    rw [bucket_insert_self] at hmem
    rcases of_mem_placed hmem with ⟨n, rfl⟩ | hmem
    · exact hother
    · exact h s t hook hmem
  · rw [bucket_insert_of_ne table p callback hself] at hmem
    exact h s u hook hmem

theorem Lacks.remove (h : table.Lacks o) (hsound : table.Sound) (handle : HookHandle) :
    (table.remove handle).2.Lacks o :=
  fun scope t hook hmem ↦ h scope t hook ((hsound.sublist_remove handle scope t).subset hmem)

end Lacks

namespace Beside

variable {o : HookRequest σ} {k : Nat} {table table' : HookTable σ}

/-- A table that lacks the hook, and none of whose hooks was registered later. -/
theorem refl (hlacks : table.Lacks o) (hsound : table.Sound) (hle : table.lastId ≤ k) :
    table.Beside o k table where
  others scope t := by
    rw [hlacks.filter_eq, List.forall₂_same]
    exact fun h hmem ↦
      ⟨rfl, rfl, (past_of_le (Nat.le_trans ((hsound scope t).id_le h hmem) hle)).symm⟩
  own h hmem hname := absurd hname (hlacks.name_ne h hmem)

/-- The hook is put at the end of its list. -/
theorem added (hlacks : table.Lacks o) (hsound : table.Sound) :
    table.Beside o table.lastId (table.insert o.scope o.timing o.placement o.callback).2 where
  others scope t := by
    have hrefl := (refl hlacks hsound (Nat.le_refl _)).others scope t
    by_cases hself : scope = o.scope ∧ o.timing = t
    · obtain ⟨rfl, rfl⟩ := hself
      rw [bucket_insert_self, placed_of_forall hlacks.name_ne, List.filter_append,
        List.filter_cons_of_neg (by simp), List.filter_nil, List.append_nil]
      exact hrefl
    · rw [bucket_insert_of_ne table o.placement o.callback hself]
      exact hrefl
  own h hmem hname := by
    rw [bucket_insert_self] at hmem
    rcases of_mem_placed hmem with ⟨n, rfl⟩ | hmem
    · rfl
    · exact absurd hname (hlacks.name_ne h hmem)

theorem insert (h : table.Beside o k table') (hid : table'.lastId = table.lastId + 1)
    (hle : k ≤ table.lastId) (scope : Scope) (t : Timing) (p : HookPlacement)
    (callback : Callback σ t) (hother : o.isOther scope t p.name) :
    (table.insert scope t p callback).2.Beside o k (table'.insert scope t p callback).2 where
  others s u := by
    by_cases hself : s = scope ∧ t = u
    · obtain ⟨rfl, rfl⟩ := hself
      have hnumber : table'.lastId + 1 = past k (table.lastId + 1) := by
        rw [past_succ_of_le hle, hid]
      rw [bucket_insert_self, bucket_insert_self, filter_placed (o.isOther s t) hother]
      refine forall₂_placed (h.others s t) (fun a b hab ↦ hab.name) (fun a b hab ↦ ?_)
        ⟨rfl, rfl, hnumber⟩
      unfold replaced
      rw [hab.name]
      split
      · exact ⟨congrArg (HookPlacement.mk · p.priority p.tier) rfl, rfl, hnumber⟩
      · exact hab
    · rw [bucket_insert_of_ne table p callback hself, bucket_insert_of_ne table' p callback hself]
      exact h.others s u
  own hook hmem hname := by
    by_cases hself : o.scope = scope ∧ t = o.timing
    · obtain ⟨rfl, rfl⟩ := hself
      rw [bucket_insert_self] at hmem
      rcases of_mem_placed hmem with ⟨n, rfl⟩ | hmem
      · have hown : p.name = o.placement.name := hname
        rw [hown, o.isOther_self] at hother
        cases hother
      · exact h.own hook hmem hname
    · rw [bucket_insert_of_ne table' p callback hself] at hmem
      exact h.own hook hmem hname

theorem remove (h : table.Beside o k table') (hsound : table'.Sound) (handle : HookHandle) :
    (table.remove handle).2.Beside o k (table'.remove (handle.past k)).2 where
  others s u := by
    by_cases hself : handle.scope = s ∧ handle.timing = u
    · obtain ⟨rfl, rfl⟩ := hself
      have hremoved : (table'.remove (handle.past k)).2.bucket handle.scope handle.timing =
          (table'.bucket handle.scope handle.timing).filter (·.id ≠ past k handle.id) :=
        table'.bucket_remove_self (handle.past k)
      rw [bucket_remove_self, hremoved, List.filter_comm]
      refine List.rel_filter (fun a b hab ↦ ?_) (h.others handle.scope handle.timing)
      simp [hab.id, past_inj]
    · have hself' : ¬((handle.past k).scope = s ∧ (handle.past k).timing = u) := hself
      rw [bucket_remove_of_ne table hself, bucket_remove_of_ne table' hself']
      exact h.others s u
  own hook hmem hname :=
    h.own hook ((hsound.sublist_remove _ o.scope o.timing).subset hmem) hname

theorem cleared (o : HookRequest σ) (k : Nat) (table table' : HookTable σ) :
    table.cleared.Beside o k table'.cleared :=
  ⟨fun _ _ ↦ .nil, fun _ h ↦ absurd h List.not_mem_nil⟩

theorem skipIds (h : table.Beside o k table') (other other' : HookTable σ) :
    (table.skipIds other).Beside o k (table'.skipIds other') := ⟨h.others, h.own⟩

end Beside

end HookTable

/-! ## Sessions -/

/-- The action registers no hook under the name of the one that is asked for at its place. -/
def Action.Avoids (o : HookRequest σ) : Action σ → Prop
  | .hook scope t placement _ => o.isOther scope t placement.name
  | _ => True

/-- The same action after one more hook was registered. -/
def Action.past (k : Nat) : Action σ → Action σ
  | .unhook handle => .unhook (handle.past k)
  | a => a

namespace Session

/-- No hook of the session, now and in the snapshots, has the name at the place of the one that is
asked for. -/
structure Lacks (o : HookRequest σ) (s : Session σ) : Prop where
  registry : s.registry.hooks.Lacks o
  saved : ∀ saved ∈ s.snapshots, saved.contents.hooks.Lacks o

/-- The sessions differ, as far as hooks go, in nothing but the one that was asked for in the second
when `k` numbers had been given out. -/
structure Beside (o : HookRequest σ) (k : Nat) (s t : Session σ) : Prop where
  sound : s.Sound
  sound' : t.Sound
  lastId : t.registry.hooks.lastId = s.registry.hooks.lastId + 1
  le_lastId : k ≤ s.registry.hooks.lastId
  hooks : s.registry.hooks.Beside o k t.registry.hooks
  saved : List.Forall₂ (fun a b ↦ a.contents.hooks.Beside o k b.contents.hooks) s.snapshots
    t.snapshots

/-- The registration of a step has no part in the hooks, nor in the snapshots. -/
theorem noteStep_hooks (s : Session σ) (handler : Handler σ)
    (reading : Except DefinitionError Text) :
    (s.noteStep handler
        (reading >>= fun pattern ↦ s.registry.register pattern handler none)).registry.hooks =
      s.registry.hooks ∧
    (s.noteStep handler
        (reading >>= fun pattern ↦ s.registry.register pattern handler none)).snapshots =
      s.snapshots := by
  rcases s.noteStep_cases handler reading with ⟨heq, -⟩ | ⟨pattern, compiled, -, -, heq⟩
  · rw [heq]
    exact ⟨rfl, rfl⟩
  · rw [heq]
    exact ⟨Registry.withStep_hooks .., rfl⟩

namespace Lacks

variable {o : HookRequest σ} {s t : Session σ}

/-- Nothing but the hooks, now and in the snapshots, has a part in this. -/
theorem congr (h : s.Lacks o)
    (hsame : t.registry.hooks = s.registry.hooks ∧ t.snapshots = s.snapshots) : t.Lacks o :=
  ⟨hsame.1 ▸ h.registry, hsame.2 ▸ h.saved⟩

theorem perform (h : s.Lacks o) (hs : s.Sound) {a : Action σ} (ha : a.Avoids o) :
    (s.perform a).Lacks o := by
  cases a with
  | register pattern handler => exact h.congr (s.noteStep_hooks handler (.ok pattern))
  | registerNamed name handler => exact h.congr (s.noteStep_hooks handler (sentenceOfName name))
  | registerDocumented documentation handler =>
    exact h.congr (s.noteStep_hooks handler (sentenceOfDocumentation documentation))
  | unregister handle => exact h.congr ⟨Registry.unregister_hooks .., rfl⟩
  | hook scope t p callback => exact ⟨h.registry.insert scope t p callback ha, h.saved⟩
  | unhook handle => exact ⟨h.registry.remove hs.registry.hooks handle, h.saved⟩
  | clear => exact ⟨fun _ _ _ hmem ↦ absurd hmem List.not_mem_nil, h.saved⟩
  | snapshot =>
    exact ⟨h.registry, List.forall_mem_append.2 ⟨h.saved, List.forall_mem_singleton.2 h.registry⟩⟩
  | restore number =>
    rw [Session.perform]
    split
    · exact h
    · next saved hsaved => exact ⟨h.saved saved (List.mem_of_getElem? hsaved), h.saved⟩

theorem leave (h : s.Lacks o) (ht : t.Lacks o) : (s.leave t).Lacks o := ⟨h.registry, ht.saved⟩

end Lacks

namespace Beside

variable {o : HookRequest σ} {k : Nat} {s t s' t' : Session σ}

/-- Nothing but the hooks, now and in the snapshots, has a part in this. -/
theorem congr (h : s.Beside o k t) (hs : s'.Sound) (ht : t'.Sound)
    (hsame : s'.registry.hooks = s.registry.hooks ∧ s'.snapshots = s.snapshots)
    (hsame' : t'.registry.hooks = t.registry.hooks ∧ t'.snapshots = t.snapshots) :
    s'.Beside o k t' := by
  obtain ⟨hhooks, hsnapshots⟩ := hsame
  obtain ⟨hhooks', hsnapshots'⟩ := hsame'
  refine ⟨hs, ht, ?_, ?_, ?_, ?_⟩
  · rw [hhooks, hhooks']
    exact h.lastId
  · rw [hhooks]
    exact h.le_lastId
  · rw [hhooks, hhooks']
    exact h.hooks
  · rw [hsnapshots, hsnapshots']
    exact h.saved

theorem restore (h : s.Beside o k t) (number : Nat) :
    (s.perform (.restore number)).Beside o k (t.perform (.restore number)) := by
  have hsound := h.sound.perform (.restore number)
  have hsound' := h.sound'.perform (.restore number)
  rcases forall₂_getElem? h.saved number with ⟨hnone, hnone'⟩ | ⟨saved, saved', hsome, hsome', hboth⟩
  · have hs : s.perform (.restore number) = s := by simp only [Session.perform, hnone]
    have ht : t.perform (.restore number) = t := by simp only [Session.perform, hnone']
    rw [hs, ht]
    exact h
  · have hs : s.perform (.restore number) = { s with registry := s.registry.restore saved } := by
      simp only [Session.perform, hsome]
    have ht : t.perform (.restore number) = { t with registry := t.registry.restore saved' } := by
      simp only [Session.perform, hsome']
    rw [hs] at hsound ⊢
    rw [ht] at hsound' ⊢
    have hle := h.sound.saved_hooks_lastId_le saved (List.mem_of_getElem? hsome)
    have hle' := h.sound'.saved_hooks_lastId_le saved' (List.mem_of_getElem? hsome')
    have hlast : (s.registry.restore saved).hooks.lastId = s.registry.hooks.lastId :=
      Nat.max_eq_right hle
    have hlast' : (t.registry.restore saved').hooks.lastId = t.registry.hooks.lastId :=
      Nat.max_eq_right hle'
    refine ⟨hsound, hsound', ?_, ?_, hboth.skipIds s.registry.hooks t.registry.hooks, h.saved⟩
    · rw [hlast, hlast']
      exact h.lastId
    · rw [hlast]
      exact h.le_lastId

theorem perform (h : s.Beside o k t) {a : Action σ} (ha : a.Avoids o) :
    (s.perform a).Beside o k (t.perform (a.past k)) := by
  have hsound := h.sound.perform a
  have hsound' := h.sound'.perform (a.past k)
  cases a with
  | register pattern handler =>
    exact h.congr hsound hsound' (s.noteStep_hooks handler (.ok pattern))
      (t.noteStep_hooks handler (.ok pattern))
  | registerNamed name handler =>
    exact h.congr hsound hsound' (s.noteStep_hooks handler (sentenceOfName name))
      (t.noteStep_hooks handler (sentenceOfName name))
  | registerDocumented documentation handler =>
    exact h.congr hsound hsound' (s.noteStep_hooks handler (sentenceOfDocumentation documentation))
      (t.noteStep_hooks handler (sentenceOfDocumentation documentation))
  | unregister handle =>
    exact h.congr hsound hsound' ⟨Registry.unregister_hooks .., rfl⟩
      ⟨Registry.unregister_hooks .., rfl⟩
  | hook scope t p callback =>
    exact ⟨hsound, hsound', congrArg (· + 1) h.lastId, Nat.le_succ_of_le h.le_lastId,
      h.hooks.insert h.lastId h.le_lastId scope t p callback ha, h.saved⟩
  | unhook handle =>
    have hlast := s.registry.hooks.lastId_remove handle
    have hlast' := t.registry.hooks.lastId_remove (handle.past k)
    refine ⟨hsound, hsound', ?_, ?_, h.hooks.remove h.sound'.registry.hooks handle, h.saved⟩
    · exact hlast'.trans (h.lastId.trans (congrArg (· + 1) hlast.symm))
    · exact Nat.le_trans h.le_lastId (Nat.le_of_eq hlast.symm)
  | clear => exact ⟨hsound, hsound', h.lastId, h.le_lastId, .cleared o k _ _, h.saved⟩
  | snapshot =>
    exact ⟨hsound, hsound', h.lastId, h.le_lastId, h.hooks,
      List.rel_append h.saved (.cons h.hooks .nil)⟩
  | restore number => exact h.restore number

/-- Both registries go back to what they held when a block was entered. -/
theorem leave {entry entry' : Session σ} (h : s.Beside o k t) (hentry : entry.Sound)
    (hentry' : entry'.Sound) (hhooks : entry.registry.hooks.Beside o k entry'.registry.hooks)
    (hle : entry.registry.hooks.lastId ≤ s.registry.hooks.lastId)
    (hle' : entry'.registry.hooks.lastId ≤ t.registry.hooks.lastId) :
    (entry.leave s).Beside o k (entry'.leave t) := by
  have hlast : (entry.leave s).registry.hooks.lastId = s.registry.hooks.lastId :=
    Nat.max_eq_right hle
  have hlast' : (entry'.leave t).registry.hooks.lastId = t.registry.hooks.lastId :=
    Nat.max_eq_right hle'
  refine ⟨hentry.leave h.sound, hentry'.leave h.sound', ?_, ?_, hhooks.skipIds _ _, h.saved⟩
  · rw [hlast, hlast']
    exact h.lastId
  · rw [hlast]
    exact h.le_lastId

/-- The hook is registered. -/
theorem added (hs : s.Sound) (h : s.Lacks o) :
    s.Beside o s.registry.hooks.lastId
      (s.perform (.hook o.scope o.timing o.placement o.callback)) where
  sound := hs
  sound' := hs.perform _
  lastId := rfl
  le_lastId := Nat.le_refl _
  hooks := .added h.registry hs.registry.hooks
  saved := List.forall₂_same.2 fun saved hsaved ↦
    .refl (h.saved saved hsaved) (hs.saved saved hsaved).hooks (hs.saved_hooks_lastId_le saved hsaved)

end Beside

end Session

namespace Script

/-- The same script after one more hook was registered. -/
def past (k : Nat) : Script σ → Script σ
  | done => done
  | breakOff p => breakOff p
  | act a rest => act (a.past k) (rest.past k)
  | block body rest => block (body.past k) (rest.past k)
  | caught body rest => caught (body.past k) (rest.past k)

theorem run_past (k : Nat) (script : Script σ) :
    (script.past k).run Session.interpretation =
      script.run ⟨fun s a ↦ s.perform (a.past k), Session.leave⟩ := by
  induction script with
  | done | breakOff => rfl
  | act a rest ih =>
    simp only [past, run, ih]
    rfl
  | block body rest ihbody ihrest =>
    simp only [past, run, ihbody, ihrest]
    rfl
  | caught body rest ihbody ihrest => simp only [past, run, ihbody, ihrest]

/-- The second script is the first in which a hook is registered at a point that is reached from the
session, after `k` numbers had been given out to hooks. What comes afterwards is done with the
handles that registrations give out then. -/
inductive AddedAt (o : HookRequest σ) : Session σ → Nat → Script σ → Script σ → Prop
  | here {s : Session σ} {rest : Script σ} :
    AddedAt o s s.registry.hooks.lastId rest
      (act (.hook o.scope o.timing o.placement o.callback) (rest.past s.registry.hooks.lastId))
  | act {s : Session σ} {k : Nat} {a : Action σ} {rest rest' : Script σ} :
    AddedAt o (s.perform a) k rest rest' → AddedAt o s k (act a rest) (act a rest')
  | inBlock {s : Session σ} {k : Nat} {body body' rest : Script σ} :
    AddedAt o s k body body' → AddedAt o s k (block body rest) (block body' (rest.past k))
  | afterBlock {s : Session σ} {k : Nat} {body rest rest' : Script σ} :
    (body.run Session.interpretation s).1 = .ok () →
      AddedAt o (s.leave (body.session s)) k rest rest' →
        AddedAt o s k (block body rest) (block body rest')
  | inCaught {s : Session σ} {k : Nat} {body body' rest : Script σ} :
    AddedAt o s k body body' → AddedAt o s k (caught body rest) (caught body' (rest.past k))
  | afterCaught {s : Session σ} {k : Nat} {body rest rest' : Script σ} :
    AddedAt o (body.session s) k rest rest' → AddedAt o s k (caught body rest) (caught body rest')

end Script

/-- What is done after the hook was registered keeps the sessions beside each other. -/
theorem Session.Beside.session {o : HookRequest σ} {k : Nat} {s t : Session σ}
    (h : s.Beside o k t) {script : Script σ} (havoids : script.Each (Action.Avoids o)) :
    (script.run interpretation s).1 = ((script.past k).run interpretation t).1 ∧
      (script.session s).Beside o k ((script.past k).session t) := by
  unfold Script.session
  rw [script.run_past k]
  refine Script.run_related_of_each (R := fun s t ↦ s.Beside o k t) (fun s t a ha h ↦ h.perform ha)
    (fun s t s' t' h h' hlater ↦ ?_) havoids h
  refine h'.leave h.sound h.sound' h.hooks hlater.hooksLastId ?_
  rw [h.lastId, h'.lastId]
  exact Nat.succ_le_succ hlater.hooksLastId

namespace Script.AddedAt

variable {o : HookRequest σ} {s : Session σ} {k : Nat} {script script' : Script σ}

theorem lastId_le (h : AddedAt o s k script script') : s.registry.hooks.lastId ≤ k := by
  induction h with
  | here => exact Nat.le_refl _
  | @act s _ a _ _ _ ih => exact Nat.le_trans (s.later_perform a).hooksLastId ih
  | inBlock _ ih => exact ih
  | @afterBlock s _ body _ _ _ _ ih =>
    have hlater := (body.later_run s).trans (s.later_leave (body.session s))
    exact Nat.le_trans hlater.hooksLastId ih
  | inCaught _ ih => exact ih
  | @afterCaught s _ body _ _ _ ih => exact Nat.le_trans (body.later_run s).hooksLastId ih

theorem lacks_session (h : s.Lacks o) (hs : s.Sound) (havoids : script.Each (Action.Avoids o)) :
    (script.session s).Lacks o :=
  (script.session_preserves_of_each (I := fun s ↦ s.Sound ∧ s.Lacks o)
    (fun _ a ha h ↦ ⟨h.1.perform a, h.2.perform h.1 ha⟩)
    (fun _ _ h h' _ ↦ ⟨h.1.leave h'.1, h.2.leave h'.2⟩) havoids ⟨hs, h⟩).2

/-- Both scripts end in the same way, and leave sessions that differ in the hook alone. -/
theorem beside (h : AddedAt o s k script script') (hs : s.Sound) (hlacks : s.Lacks o)
    (havoids : script.Each (Action.Avoids o)) :
    (script.run Session.interpretation s).1 = (script'.run Session.interpretation s).1 ∧
      (script.session s).Beside o k (script'.session s) := by
  induction h with
  | here => exact (Session.Beside.added hs hlacks).session havoids
  | @act s _ a _ _ _ ih => exact ih (hs.perform a) (hlacks.perform hs havoids.1) havoids.2
  | @inBlock s k body body' rest hadded ih =>
    obtain ⟨hend, hbody⟩ := ih hs hlacks havoids.1
    -- At its end the registry holds what it held on entry, so the hook is gone; its number is not.
    have hleft : (s.leave (body.session s)).Beside o k (s.leave (body'.session s)) :=
      hbody.leave hs hs (.refl hlacks.registry hs.registry.hooks hadded.lastId_le)
        (body.later_run s).hooksLastId (body'.later_run s).hooksLastId
    unfold session
    rw [run_block, run_block, ← hend]
    split
    · exact hleft.session havoids.2
    · exact ⟨rfl, hleft⟩
  | @afterBlock s _ body rest rest' hok _ ih =>
    unfold session
    rw [run_block, run_block, hok]
    exact ih (hs.leave (body.sound_session hs)) (hlacks.leave (lacks_session hlacks hs havoids.1))
      havoids.2
  | inCaught _ ih => exact (ih hs hlacks havoids.1).2.session havoids.2
  | @afterCaught s _ body _ _ _ ih =>
    exact ih (body.sound_session hs) (lacks_session hlacks hs havoids.1) havoids.2

end Script.AddedAt

theorem Hook.RunsBefore.asymm {a b : Hook σ t} (h : a.RunsBefore b) : ¬b.RunsBefore a := by
  cases t <;> exact Outside.asymm h

namespace HookTable

/-- Leaving hooks out before or after sorting is the same. -/
theorem InOrder.filter_mergeSort {hooks : List (Hook σ t)} {lastId lastInsertion : Nat}
    (h : InOrder lastId lastInsertion hooks) (p : Hook σ t → Bool) :
    (hooks.mergeSort Hook.le).filter p = (hooks.filter p).mergeSort Hook.le := by
  have hperm : ((hooks.mergeSort Hook.le).filter p).Perm ((hooks.filter p).mergeSort Hook.le) :=
    ((List.mergeSort_perm hooks Hook.le).filter p).trans (List.mergeSort_perm _ _).symm
  exact hperm.eq_of_pairwise (fun a b _ _ hab hba ↦ absurd hba hab.asymm)
    (h.pairwise_runsBefore.sublist List.filter_sublist)
    (h.sublist List.filter_sublist).pairwise_runsBefore

variable {o : HookRequest σ} {k : Nat} {table table' : HookTable σ}

theorem Beside.ordered (h : table.Beside o k table') (hsound : table.Sound)
    (hsound' : table'.Sound) (scope : Scope) (t : Timing) :
    List.Forall₂ Hook.Same (table.ordered scope t)
      ((table'.ordered scope t).filter fun h ↦ o.isOther scope t h.name) := by
  have hinOrder := hsound' scope t
  have hmap := HookSession.map_mergeSort_of_forall₂
    ((h.others scope t).imp fun _ _ hab ↦ ⟨hab.placement, hab.callback⟩) (hsound scope t)
    (hinOrder.sublist List.filter_sublist)
  rw [← hinOrder.filter_mergeSort, ← List.forall₂_eq_eq_eq, List.forall₂_map_left_iff,
    List.forall₂_map_right_iff] at hmap
  refine hmap.imp fun a b hab ↦ ?_
  obtain ⟨hplacement, hcallback⟩ := Prod.mk.inj hab
  exact ⟨congrArg HookPlacement.name hplacement, hcallback⟩

/-- The brackets of a scope differ in nothing but a hook that is not noticed. -/
theorem Beside.bracket (h : table.Beside o k table') (hsound : table.Sound)
    (hsound' : table'.Sound) {view : σ → υ} {target : HookSubject}
    (hunseen : o.callback.Unseen view target o.timing) (scope : Scope) :
    (Bracket.ofTable table scope).Beside (o.isOther scope) view target
      (.ofTable table' scope) := by
  have hhooksAt (table : HookTable σ) (t : Timing) :
      (Bracket.ofTable table scope).hooksAt t = table.ordered scope t := by
    cases t <;> rfl
  refine ⟨rfl, fun t ↦ ?_, fun t hook hmem hown ↦ ?_⟩
  · rw [hhooksAt, hhooksAt]
    exact h.ordered hsound hsound' scope t
  · rw [hhooksAt, HookTable.ordered, List.mem_mergeSort] at hmem
    obtain ⟨rfl, rfl, hname⟩ : o.scope = scope ∧ o.timing = t ∧ o.placement.name = hook.name := by
      simpa [HookRequest.isOther] using hown
    rw [h.own hook hmem hname.symm]
    exact hunseen

end HookTable

/-- A hook that always succeeds, as its guard does, without the others seeing anything of what it
does, is added to a registry at any point of what is done with it, in any place and under a name
that nothing else has there. Then a call that the registry wraps ends in the same way, and the other
hooks, their guards and the call are run in the same order and end in the same way, whatever fails;
it is only required that no hook breaks off. What each of them does may depend on what it sees: on
nothing if the view is the same for all states, on everything if the view is the state and the
additional hook leaves it as it is. -/
theorem wrap_unchanged_by_unseen_hook {ds : List (DeclaredStep σ)} {r : Registry σ}
    (hr : Registry.ofDeclarations ds = .ok r) {o : HookRequest σ} {k : Nat}
    {script script' : Script σ} (hadded : Script.AddedAt o (.start r) k script script')
    (hname : script.Each (Action.Avoids o)) {view : σ → υ} {scope : Scope} {target : HookSubject}
    (hunseen : o.callback.Unseen view target o.timing)
    (hreturns : ((script.session (.start r)).registry.bracket scope).Returns target)
    (hkeeps : ((script.session (.start r)).registry.bracket scope).KeepsTo view target)
    {call : Call σ ε α} (hcall : call.KeepsTo view) {w w' : σ} (hview : view w = view w') :
    ∃ (v v' : Visit σ (Outcome ε α)) (outcome : Outcome (BracketError ε) α) (w₁ w₁' : σ),
      (script.session (.start r)).registry.wrap scope target call w = (outcome, w₁) ∧
      (script'.session (.start r)).registry.wrap scope target call w' = (outcome, w₁') ∧
      v.Happens target (fun o w₁ w₂ ↦ call w₁ = (o, w₂)) w w₁ ∧
      v.Orderly ((script.session (.start r)).registry.bracket scope) ∧
      v'.Happens target (fun o w₁ w₂ ↦ call w₁ = (o, w₂)) w' w₁' ∧
      v'.Orderly ((script'.session (.start r)).registry.bracket scope) ∧
      v.events = v'.events.filter (BracketEvent.among (o.isOther scope)) ∧ view w₁ = view w₁' := by
  have hlacks : (Session.start r).Lacks o := by
    refine ⟨fun s t h hmem ↦ ?_, fun _ h ↦ absurd h List.not_mem_nil⟩
    change h ∈ r.hooks.bucket s t at hmem
    rw [Registry.hooks_ofDeclarations hr] at hmem
    cases hmem
  obtain ⟨-, hbeside⟩ := hadded.beside (.start (.ofDeclarations hr)) hlacks hname
  have hbracket := hbeside.hooks.bracket hbeside.sound.registry.hooks hbeside.sound'.registry.hooks
    hunseen scope
  exact Bracket.around_beside hbracket rfl rfl hreturns hkeeps hcall hview

/-- A hook that notes in the second number how often it is run, and how often its guard is. -/
def HookRequest.watch : HookRequest (Nat × Nat) :=
  ⟨.step, .around, ⟨['w'], -5, .outer⟩, fun _ w ↦ (.ok fun w ↦ (.ok (), (w.1, w.2 + 1)),
    (w.1, w.2 + 1))⟩

/-- A hook that counts in the first number is registered; then one whose guard fails and, after the
part with it broke off, a third one, which is removed again. -/
def Script.counts : Script (Nat × Nat) :=
  .act (.hook .step .before ⟨['c'], 0, .user⟩ fun _ w ↦ (.ok (), (w.1 + 1, w.2))) <|
  .caught (.act (.hook .step .around ⟨['g'], 0, .user⟩ fun _ w ↦
    (.ok fun w ↦ (.error ['n', 'o'], (w.1 + 1, w.2)), w)) (.breakOff (.integer 1))) <|
  .act (.hook .step .before ⟨['d'], 0, .user⟩ fun _ w ↦ (.ok (), (w.1 + 1, w.2))) <|
  .act (.unhook ⟨.step, .before, ['d'], 3⟩) .done

/-- The same with one more hook, which is registered second. -/
def Script.countsWatched : Script (Nat × Nat) :=
  .act (.hook .step .before ⟨['c'], 0, .user⟩ fun _ w ↦ (.ok (), (w.1 + 1, w.2))) <|
  .caught (.act (.hook .step .around ⟨['w'], -5, .outer⟩ HookRequest.watch.callback) <|
    .act (.hook .step .around ⟨['g'], 0, .user⟩ fun _ w ↦
      (.ok fun w ↦ (.error ['n', 'o'], (w.1 + 1, w.2)), w)) (.breakOff (.integer 1))) <|
  .act (.hook .step .before ⟨['d'], 0, .user⟩ fun _ w ↦ (.ok (), (w.1 + 1, w.2))) <|
  .act (.unhook ⟨.step, .before, ['d'], 4⟩) .done

theorem addedAt_countsWatched :
    Script.AddedAt .watch (.start .empty) 1 .counts .countsWatched :=
  .act (.inCaught .here)

theorem counts_avoids_watch : Script.counts.Each (Action.Avoids .watch) :=
  ⟨rfl, ⟨rfl, trivial⟩, rfl, trivial, trivial⟩

theorem counts_returns (target : HookSubject) :
    ((Script.counts.session (.start .empty)).registry.bracket .step).Returns target := by
  refine ⟨?befores, ?arounds, ?guards, ?afters⟩
  case befores =>
    intro h hmem w
    obtain rfl := List.mem_singleton.1 (List.mem_mergeSort.1 hmem)
    exact ⟨.ok (), _, rfl⟩
  case arounds =>
    intro h hmem w
    obtain rfl := List.mem_singleton.1 (List.mem_mergeSort.1 hmem)
    exact ⟨.ok _, _, rfl⟩
  case guards =>
    intro h hmem w guard w' hrun w₁
    obtain rfl := List.mem_singleton.1 (List.mem_mergeSort.1 hmem)
    cases hrun
    exact ⟨.error _, _, rfl⟩
  case afters =>
    intro h hmem w
    cases List.mem_mergeSort.1 hmem

theorem counts_keepsTo (target : HookSubject) :
    ((Script.counts.session (.start .empty)).registry.bracket .step).KeepsTo Prod.fst target := by
  intro t h hmem
  cases t with
  | before =>
    obtain rfl := List.mem_singleton.1 (List.mem_mergeSort.1 hmem)
    exact fun w w' hview ↦ ⟨.ok rfl, congrArg (· + 1) hview⟩
  | around =>
    obtain rfl := List.mem_singleton.1 (List.mem_mergeSort.1 hmem)
    exact fun w w' hview ↦
      ⟨.ok fun v v' hview' ↦ ⟨.error _, congrArg (· + 1) hview'⟩, hview⟩
  | after => cases List.mem_mergeSort.1 hmem

theorem watch_unseen (target : HookSubject) :
    HookRequest.watch.callback.Unseen Prod.fst target .around :=
  fun _ ↦ ⟨_, _, rfl, fun _ ↦ ⟨(), _, rfl, trivial, rfl⟩, rfl⟩

/-- A call that answers with the count is wrapped with and without the hook that watches. -/
theorem wrap_counts_unchanged_by_watch :
    Script.AddedAt .watch (.start .empty) 1 .counts .countsWatched ∧
    ∃ (v v' : Visit (Nat × Nat) (Outcome Text Nat)) (outcome : Outcome (BracketError Text) Nat)
      (w₁ w₁' : Nat × Nat),
      (Script.counts.session (.start .empty)).registry.wrap .step .all (fun w ↦ (.ok w.1, w)) (0, 0) =
        (outcome, w₁) ∧
      (Script.countsWatched.session (.start .empty)).registry.wrap .step .all (fun w ↦ (.ok w.1, w))
        (0, 5) = (outcome, w₁') ∧
      v.Happens .all (fun o w₁ w₂ ↦ (Outcome.ok w₁.1, w₁) = (o, w₂)) (0, 0) w₁ ∧
      v.Orderly ((Script.counts.session (.start .empty)).registry.bracket .step) ∧
      v'.Happens .all (fun o w₁ w₂ ↦ (Outcome.ok w₁.1, w₁) = (o, w₂)) (0, 5) w₁' ∧
      v'.Orderly ((Script.countsWatched.session (.start .empty)).registry.bracket .step) ∧
      v.events = v'.events.filter (BracketEvent.among (HookRequest.watch.isOther .step)) ∧
      w₁.1 = w₁'.1 := by
  have hempty : Registry.ofDeclarations ([] : List (DeclaredStep (Nat × Nat))) = .ok .empty := by
    rw [Registry.ofDeclarations, List.mergeSort_nil]
    rfl
  have hcall : Call.KeepsTo Prod.fst
      (fun w ↦ (.ok w.1, w) : Call (Nat × Nat) Text Nat) := fun w w' hview ↦ ⟨.ok hview, hview⟩
  exact ⟨addedAt_countsWatched,
    wrap_unchanged_by_unseen_hook hempty addedAt_countsWatched counts_avoids_watch
      (watch_unseen .all) (counts_returns .all) (counts_keepsTo .all) hcall rfl⟩

end Gherkin
