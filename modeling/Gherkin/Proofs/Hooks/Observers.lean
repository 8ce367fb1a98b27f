import Gherkin.Proofs.Hooks.Passage
import Gherkin.Proofs.Hooks.Visit
import Mathlib.Data.List.Forall2

/-!
# Hooks that nobody notices

Of the state that callbacks pass on, other callbacks may see a part only. What they see is a view of
the state. A hook is not noticed if it always succeeds and leaves the view as it is; nothing is left
of the state to be seen if the view is the same for all states, and then it is only decided how each
callback ends. A bracket with some more hooks that are not noticed is run like the bracket without
them: the others are run in the same order and end in the same way.

Main statement: a call within a bracket ends in the same way and leaves the same view if the bracket
is given hooks that are not noticed (`Bracket.around_beside`).
-/

namespace Gherkin

variable {σ υ ε ι φ α α' β β' γ γ' : Type}

/-- Two calls ended in the same way, up to a relation between what they returned. -/
inductive Outcome.Alike (S : α → α' → Prop) : Outcome ε α → Outcome ε α' → Prop
  | ok {a : α} {a' : α'} : S a a' → Alike S (.ok a) (.ok a')
  | error (e : ε) : Alike S (.error e) (.error e)
  | panic (p : Payload) : Alike S (.panic p) (.panic p)

theorem Outcome.alike_eq_iff {o o' : Outcome ε α} : o.Alike Eq o' ↔ o = o' := by
  constructor
  · rintro (⟨rfl⟩ | _ | _) <;> rfl
  · rintro rfl
    cases o with
    | ok a => exact .ok rfl
    | error e => exact .error e
    | panic p => exact .panic p

namespace Call

/-- From states with the same view two calls end in the same way and leave the same view. -/
def LooksLike (view : σ → υ) (S : α → α' → Prop) (c : Call σ ε α) (c' : Call σ ε α') : Prop :=
  ∀ w w', view w = view w' → (c w).1.Alike S (c' w').1 ∧ view (c w).2 = view (c' w').2

/-- How a call ends and what is seen of the state afterwards is decided by what is seen before. -/
def KeepsTo (view : σ → υ) (c : Call σ ε α) : Prop := c.LooksLike view Eq c

/-- A call always returns something good, and nothing is seen of what it does to the state. -/
def Unseen (view : σ → υ) (good : α → Prop) (c : Call σ ε α) : Prop :=
  ∀ w, ∃ a w', c w = (.ok a, w') ∧ good a ∧ view w' = view w

end Call

/-- What a hook does keeps to a view of the state, and so does the guard that it hands out. -/
def Callback.KeepsTo (view : σ → υ) (target : HookSubject) : (t : Timing) → Callback σ t → Prop
  | .before, callback | .after, callback => Call.KeepsTo view (callback target)
  | .around, callback => Call.LooksLike view (Call.LooksLike view Eq) (callback target)
    (callback target)

/-- A hook always succeeds without anything being seen of what it does, and so does its guard. -/
def Callback.Unseen (view : σ → υ) (target : HookSubject) : (t : Timing) → Callback σ t → Prop
  | .before, callback | .after, callback => Call.Unseen view (fun _ ↦ True) (callback target)
  | .around, callback =>
    Call.Unseen view (fun guard : Guard σ ↦ guard.Unseen view fun _ ↦ True) (callback target)

/-- The same hook, but perhaps under other numbers and in another place. -/
structure Hook.Same {t : Timing} (h h' : Hook σ t) : Prop where
  name : h.name = h'.name
  callback : h.callback = h'.callback

/-- What was run with how it ended, where nothing breaks off. -/
def seen (p : β × Except Text γ) : β × Outcome Text γ := (p.1, .ofExcept p.2)

theorem Ran.called {run : β → Call σ Text γ} {ran : List (β × Except Text γ)} {w w' : σ}
    (h : Ran run w ran w') : Called run w (ran.map seen) w' := by
  induction h with
  | nil => exact .nil
  | cons hrun _ ih => exact .cons hrun ih

/-- Items that were run up to the first failure were called as long as they returned. -/
theorem UpToFailure.upTo {items : List β} {ran : List (β × Except Text γ)}
    (h : UpToFailure items ran) : UpTo Outcome.isOk items (ran.map seen) := by
  induction ran generalizing items with
  | nil =>
    rw [← h.all_of_succeeded fun _ hp ↦ absurd hp List.not_mem_nil]
    exact .nil
  | cons p ran ih =>
    obtain ⟨front, succeeded, all⟩ := h
    cases items with
    | nil => cases List.prefix_nil.1 front
    | cons item items =>
      obtain ⟨rfl, hfront⟩ := List.cons_prefix_cons.1 front
      obtain ⟨item, result⟩ := p
      cases result with
      | error m =>
        cases ran with
        | nil => exact .last rfl
        | cons q ran => cases succeeded (item, .error m) List.mem_cons_self
      | ok c =>
        have hrest : Succeeded ran.dropLast := by
          intro q hq
          cases ran with
          | nil => cases hq
          | cons r ran => exact succeeded q (List.mem_cons_of_mem _ hq)
        refine .cons rfl (ih ⟨hfront, hrest, fun hall ↦ ?_⟩)
        exact (List.cons.inj (all (List.forall_mem_cons.2 ⟨rfl, hall⟩))).2

/-- Items that were all run were called whatever became of them. -/
theorem upTo_map_seen (ran : List (β × Except Text γ)) :
    UpTo (fun _ ↦ true) (ran.map Prod.fst) (ran.map seen) := by
  induction ran with
  | nil => exact .nil
  | cons p ran ih => exact .cons rfl ih

/-- Items that are called in two runs from states with the same view, in the second run with some
more that are not noticed, are called up to the same item and end alike. -/
theorem UpTo.beside {view : σ → υ} {S : γ → γ' → Prop} {good : γ' → Prop} {R : β → β' → Prop}
    {run : β → Call σ Text γ} {run' : β' → Call σ Text γ'} {others : β' → Bool}
    {goesOn : Outcome Text γ → Bool} {goesOn' : Outcome Text γ' → Bool}
    (hgoesOn : ∀ o o', o.Alike S o' → goesOn o = goesOn' o') (hok : ∀ c, goesOn' (.ok c))
    (hrun : ∀ a b, R a b → (run a).LooksLike view S (run' b)) {items : List β} {items' : List β'}
    (hitems : List.Forall₂ R items (items'.filter others))
    (hunseen : ∀ b ∈ items', others b = false → (run' b).Unseen view good)
    {ran : List (β × Outcome Text γ)} {ran' : List (β' × Outcome Text γ')} {w w₁ w' w₁' : σ}
    (hup : UpTo goesOn items ran) (hran : Called run w ran w₁) (hup' : UpTo goesOn' items' ran')
    (hran' : Called run' w' ran' w₁') (hview : view w = view w') :
    List.Forall₂ (fun p p' ↦ R p.1 p'.1 ∧ p.2.Alike S p'.2) ran (ran'.filter (others ·.1)) ∧
      (∀ p ∈ ran', others p.1 = false → ∃ c, p.2 = .ok c ∧ good c) ∧ view w₁ = view w₁' := by
  induction hran' generalizing items items' ran w with
  | nil =>
    cases hup'
    cases hitems
    cases hup
    cases hran
    exact ⟨.nil, fun _ h ↦ absurd h List.not_mem_nil, hview⟩
  | @cons item' outcome' ran' w' w'' w₁' hrun' hran' ih =>
    obtain ⟨rest', rfl⟩ : ∃ rest', items' = item' :: rest' := by cases hup' <;> exact ⟨_, rfl⟩
    have hunseen' : ∀ b ∈ rest', others b = false → (run' b).Unseen view good :=
      fun b hb ↦ hunseen b (List.mem_cons_of_mem _ hb)
    cases hother : others item' with
    | false =>
      -- The item is one that is not noticed, so that the first run stays where it is.
      obtain ⟨c, v, hc, hgood, hv⟩ := hunseen item' List.mem_cons_self hother w'
      cases hrun'.symm.trans hc
      rw [List.filter_cons_of_neg (by simp [hother])] at hitems
      cases hup' with
      | last hstop => exact absurd (hok c) (Bool.eq_false_iff.1 hstop)
      | cons _ hup' =>
        obtain ⟨hrest, hsilent, hview'⟩ := ih hitems hunseen' hup hran hup' (hview.trans hv.symm)
        rw [List.filter_cons_of_neg (by simp [hother])]
        exact ⟨hrest, List.forall_mem_cons.2 ⟨fun _ ↦ ⟨c, rfl, hgood⟩, hsilent⟩, hview'⟩
    | true =>
      rw [List.filter_cons_of_pos hother] at hitems
      obtain ⟨item, rest, hR, hrest, rfl⟩ := List.forall₂_cons_right_iff.1 hitems
      have hagree : ∀ outcome v, run item w = (outcome, v) →
          outcome.Alike S outcome' ∧ view v = view w'' := by
        intro outcome v hcall
        have hboth := hrun item item' hR w w' hview
        rwa [hcall, hrun'] at hboth
      have hnoticed : others item' = false → ∃ c, outcome' = .ok c ∧ good c :=
        fun h ↦ absurd h (by simp [hother])
      have hfilter : ((item', outcome') :: ran').filter (others ·.1) =
          (item', outcome') :: ran'.filter (others ·.1) := List.filter_cons_of_pos hother
      rw [hfilter]
      cases hup with
      | last hstop =>
        cases hran with
        | cons hcall hnil =>
          obtain ⟨halike, hv⟩ := hagree _ _ hcall
          cases hup' with
          | cons hgo _ =>
            rw [hgoesOn _ _ halike] at hstop
            exact absurd hgo (Bool.eq_false_iff.1 hstop)
          | last _ =>
            cases hnil
            cases hran'
            exact ⟨.cons ⟨hR, halike⟩ .nil, List.forall_mem_singleton.2 hnoticed, hv⟩
      | cons hgo hup =>
        cases hran with
        | cons hcall hran =>
          obtain ⟨halike, hv⟩ := hagree _ _ hcall
          cases hup' with
          | last hstop =>
            rw [← hgoesOn _ _ halike] at hstop
            exact absurd hgo (Bool.eq_false_iff.1 hstop)
          | cons _ hup' =>
            obtain ⟨hmore, hsilent, hview'⟩ := ih hrest hunseen' hup hran hup' hv
            exact ⟨.cons ⟨hR, halike⟩ hmore, List.forall_mem_cons.2 ⟨hnoticed, hsilent⟩, hview'⟩

/-! ## Accounts of runs -/

def failure? : Except Text γ → Option Text
  | .ok _ => none
  | .error m => some m

/-- The names of the callbacks that were run, with what they reported. -/
def account (name : β → Text) (ran : List (β × Except Text γ)) : List (Text × Option Text) :=
  ran.map fun p ↦ (name p.1, failure? p.2)

/-- The second account has what the first has and, in between, callbacks that succeeded. -/
structure AccountBeside (others : Text → Bool) (as as' : List (Text × Option Text)) : Prop where
  kept : as = as'.filter (others ·.1)
  silent : ∀ e ∈ as', others e.1 = false → e.2 = none

/-- The second run has what the first has and, in between, callbacks that are not noticed. -/
structure RanBeside (name' : β' → Text) (others : Text → Bool) (R : β → β' → Prop)
    (S : γ → γ' → Prop) (good : γ' → Prop) (ran : List (β × Except Text γ))
    (ran' : List (β' × Except Text γ')) : Prop where
  kept : List.Forall₂ (fun p p' ↦ R p.1 p'.1 ∧ (Outcome.ofExcept p.2).Alike S (.ofExcept p'.2)) ran
    (ran'.filter fun p ↦ others (name' p.1))
  unnoticed : ∀ p ∈ ran', others (name' p.1) = false → ∃ c, p.2 = .ok c ∧ good c

theorem failures_eq_filterMap_account (scope : Scope) (t : Timing) (name : β → Text)
    (ran : List (β × Except Text γ)) :
    failures scope t name ran =
      (account name ran).filterMap fun e ↦ e.2.map (⟨scope, t, e.1, ·⟩) := by
  rw [account, List.filterMap_map, failures]
  congr 1
  funext p
  obtain ⟨item, result⟩ := p
  cases result <;> rfl

theorem AccountBeside.failures_eq {others : Text → Bool} {name : β → Text} {name' : β' → Text}
    {ran : List (β × Except Text γ)} {ran' : List (β' × Except Text γ')}
    (h : AccountBeside others (account name ran) (account name' ran')) (scope : Scope)
    (t : Timing) : failures scope t name ran = failures scope t name' ran' := by
  rw [failures_eq_filterMap_account, failures_eq_filterMap_account, h.kept, List.filterMap_filter]
  refine List.filterMap_congr fun e he ↦ ?_
  cases hother : others e.1 with
  | true => rfl
  | false =>
    rw [h.silent e he hother]
    rfl

theorem AccountBeside.succeeded_iff {others : Text → Bool} {name : β → Text} {name' : β' → Text}
    {ran : List (β × Except Text γ)} {ran' : List (β' × Except Text γ')}
    (h : AccountBeside others (account name ran) (account name' ran')) :
    Succeeded ran ↔ Succeeded ran' := by
  have hnone : Succeeded ran ↔ failures .all .before name ran = [] := succeeded_iff_failures_eq_nil
  rw [hnone, h.failures_eq, ← succeeded_iff_failures_eq_nil]

namespace RanBeside

variable {name' : β' → Text} {others : Text → Bool} {R : β → β' → Prop} {S : γ → γ' → Prop}
  {good : γ' → Prop} {ran : List (β × Except Text γ)} {ran' : List (β' × Except Text γ')}

theorem nil : RanBeside name' others R S good ([] : List (β × Except Text γ)) [] :=
  ⟨.nil, fun _ h ↦ absurd h List.not_mem_nil⟩

theorem accountBeside (h : RanBeside name' others R S good ran ran') {name : β → Text}
    (hname : ∀ a b, R a b → name a = name' b) :
    AccountBeside others (account name ran) (account name' ran') := by
  refine ⟨?_, ?_⟩
  · have hfilter : (account name' ran').filter (others ·.1) =
        account name' (ran'.filter fun p ↦ others (name' p.1)) := List.filter_map
    rw [hfilter, ← List.forall₂_eq_eq_eq, account, account, List.forall₂_map_left_iff,
      List.forall₂_map_right_iff]
    refine h.kept.imp fun p p' ⟨hR, halike⟩ ↦ ?_
    obtain ⟨item, result⟩ := p
    obtain ⟨item', result'⟩ := p'
    rw [hname item item' hR]
    cases result <;> cases result' <;> cases halike <;> rfl
  · intro e he hother
    obtain ⟨p, hp, rfl⟩ := List.mem_map.1 he
    obtain ⟨c, hc, -⟩ := h.unnoticed p hp hother
    exact congrArg failure? hc

end RanBeside

section Runs

variable {view : σ → υ} {S : γ → γ' → Prop} {good : γ' → Prop} {R : β → β' → Prop}
  {run : β → Call σ Text γ} {run' : β' → Call σ Text γ'} {name' : β' → Text} {others : Text → Bool}
  {items : List β} {items' : List β'} {ran : List (β × Except Text γ)}
  {ran' : List (β' × Except Text γ')} {w w₁ w' w₁' : σ}

theorem Ran.beside {goesOn : Outcome Text γ → Bool} {goesOn' : Outcome Text γ' → Bool}
    (hgoesOn : ∀ o o', o.Alike S o' → goesOn o = goesOn' o') (hok : ∀ c, goesOn' (.ok c))
    (hrun : ∀ a b, R a b → (run a).LooksLike view S (run' b))
    (hitems : List.Forall₂ R items (items'.filter fun b ↦ others (name' b)))
    (hunseen : ∀ b ∈ items', others (name' b) = false → (run' b).Unseen view good)
    (hup : UpTo goesOn items (ran.map seen)) (hran : Ran run w ran w₁)
    (hup' : UpTo goesOn' items' (ran'.map seen)) (hran' : Ran run' w' ran' w₁')
    (hview : view w = view w') :
    RanBeside name' others R S good ran ran' ∧ view w₁ = view w₁' := by
  obtain ⟨hkept, hunnoticed, hview'⟩ :=
    UpTo.beside hgoesOn hok hrun hitems hunseen hup hran.called hup' hran'.called hview
  have hfilter : (ran'.map seen).filter (fun p ↦ others (name' p.1)) =
      (ran'.filter fun p ↦ others (name' p.1)).map seen := List.filter_map
  rw [hfilter, List.forall₂_map_left_iff, List.forall₂_map_right_iff] at hkept
  refine ⟨⟨hkept, fun p hp hother ↦ ?_⟩, hview'⟩
  obtain ⟨c, hc, hgood⟩ := hunnoticed (seen p) (List.mem_map_of_mem hp) hother
  obtain ⟨item, result⟩ := p
  cases result with
  | ok c' =>
    cases hc
    exact ⟨_, rfl, hgood⟩
  | error m => cases hc

/-- Up to the first failure the same is run. -/
theorem UpToFailure.beside (hrun : ∀ a b, R a b → (run a).LooksLike view S (run' b))
    (hitems : List.Forall₂ R items (items'.filter fun b ↦ others (name' b)))
    (hunseen : ∀ b ∈ items', others (name' b) = false → (run' b).Unseen view good)
    (hup : UpToFailure items ran) (hran : Ran run w ran w₁) (hup' : UpToFailure items' ran')
    (hran' : Ran run' w' ran' w₁') (hview : view w = view w') :
    RanBeside name' others R S good ran ran' ∧ view w₁ = view w₁' := by
  refine Ran.beside (fun o o' halike ↦ ?_) (fun _ ↦ rfl) hrun hitems hunseen hup.upTo hran
    hup'.upTo hran' hview
  cases halike <;> rfl

/-- Where everything is run, the same is run. -/
theorem Ran.beside_of_all (hrun : ∀ a b, R a b → (run a).LooksLike view S (run' b))
    (hitems : List.Forall₂ R items (items'.filter fun b ↦ others (name' b)))
    (hunseen : ∀ b ∈ items', others (name' b) = false → (run' b).Unseen view good)
    (hall : ran.map Prod.fst = items) (hran : Ran run w ran w₁) (hall' : ran'.map Prod.fst = items')
    (hran' : Ran run' w' ran' w₁') (hview : view w = view w') :
    RanBeside name' others R S good ran ran' ∧ view w₁ = view w₁' := by
  subst hall hall'
  exact Ran.beside (fun _ _ _ ↦ rfl) (fun _ ↦ rfl) hrun hitems hunseen (upTo_map_seen ran) hran
    (upTo_map_seen ran') hran' hview

end Runs

/-- The guards that are handed out correspond as the hooks do that hand them out. -/
theorem RanBeside.handedOut {others : Text → Bool} {R : Hook σ .around → Hook σ .around → Prop}
    {S : Guard σ → Guard σ → Prop} {good : Guard σ → Prop}
    {entries entries' : List (Hook σ .around × Except Text (Guard σ))}
    (h : RanBeside Hook.name others R S good entries entries')
    (hname : ∀ a b, R a b → a.name = b.name) :
    List.Forall₂ (fun g g' : HeldGuard σ ↦ g.name = g'.name ∧ S g.exit g'.exit) (handedOut entries)
        ((handedOut entries').filter fun g ↦ others g.name) ∧
      ∀ g ∈ Gherkin.handedOut entries', others g.name = false → good g.exit := by
  constructor
  · have hfilter : (Gherkin.handedOut entries').filter (fun g ↦ others g.name) =
        Gherkin.handedOut (entries'.filter fun p ↦ others p.1.name) := by
      unfold Gherkin.handedOut
      rw [List.filter_filterMap, List.filterMap_filter]
      refine List.filterMap_congr fun p _ ↦ ?_
      obtain ⟨hook, _ | guard⟩ := p
      · simp [Except.toOption]
      · simp [Except.toOption, Option.filter]
    rw [hfilter]
    refine List.rel_filterMap (fun p p' hp ↦ ?_) h.kept
    obtain ⟨hook, result⟩ := p
    obtain ⟨hook', result'⟩ := p'
    obtain ⟨hR, halike⟩ := hp
    cases result with
    | error m =>
      cases result' with
      | error m' => exact .none
      | ok guard' => cases halike
    | ok guard =>
      cases result' with
      | error m' => cases halike
      | ok guard' =>
        cases halike with
        | ok hS => exact .some ⟨hname hook hook' hR, hS⟩
  · intro g hg hother
    obtain ⟨⟨hook, result⟩, hmem, hresult⟩ := List.mem_filterMap.1 hg
    cases result with
    | error m => simp [Except.toOption] at hresult
    | ok guard =>
      obtain rfl : ⟨hook.name, guard⟩ = g := by simpa [Except.toOption] using hresult
      obtain ⟨c, hc, hgood⟩ := h.unnoticed _ hmem hother
      cases hc
      exact hgood

/-! ## Brackets -/

/-- The hooks of a bracket with one timing. -/
def Bracket.hooksAt (b : Bracket σ) : (t : Timing) → List (Hook σ t)
  | .before => b.befores
  | .around => b.arounds
  | .after => b.afters

/-- All hooks of a bracket keep to a view of the state. -/
def Bracket.KeepsTo (view : σ → υ) (b : Bracket σ) (target : HookSubject) : Prop :=
  ∀ t, ∀ h ∈ b.hooksAt t, h.callback.KeepsTo view target t

/-- The second bracket has the hooks of the first and, in between, others that are not noticed. -/
structure Bracket.Beside (others : Timing → Text → Bool) (view : σ → υ) (target : HookSubject)
    (b b' : Bracket σ) : Prop where
  scope : b.scope = b'.scope
  kept (t : Timing) :
    List.Forall₂ Hook.Same (b.hooksAt t) ((b'.hooksAt t).filter fun h ↦ others t h.name)
  unseen (t : Timing) :
    ∀ h ∈ b'.hooksAt t, others t h.name = false → Callback.Unseen view target t h.callback

/-- What happened in a bracket: a hook was run, a guard released, or the call made, and how it
ended. -/
inductive BracketEvent (ι : Type) where
  | hook (t : Timing) (name : Text) (failure : Option Text)
  | exit (name : Text) (failure : Option Text)
  | call (ended : ι)

/-- Whether the event belongs to one of the others, that is, to a hook or a guard of theirs or to
the call. -/
def BracketEvent.among (others : Timing → Text → Bool) : BracketEvent ι → Bool
  | hook t name _ => others t name
  | exit name _ => others .around name
  | call _ => true

namespace Visit

/-- What happened in a visit, in time. -/
def events (v : Visit σ ι) : List (BracketEvent ι) :=
  (account Hook.name v.befores).map (fun e ↦ .hook .before e.1 e.2) ++
    (account Hook.name v.entries).map (fun e ↦ .hook .around e.1 e.2) ++
    v.inside.toList.map .call ++
    (account HeldGuard.name v.exits).map (fun e ↦ .exit e.1 e.2) ++
    (account Hook.name v.afters).map fun e ↦ .hook .after e.1 e.2

/-- The second visit has what the first has and, in between, callbacks that succeeded. -/
structure Beside (others : Timing → Text → Bool) (v v' : Visit σ ι) : Prop where
  befores : AccountBeside (others .before) (account Hook.name v.befores)
    (account Hook.name v'.befores)
  entries : AccountBeside (others .around) (account Hook.name v.entries)
    (account Hook.name v'.entries)
  inside : v.inside = v'.inside
  exits : AccountBeside (others .around) (account HeldGuard.name v.exits)
    (account HeldGuard.name v'.exits)
  afters : AccountBeside (others .after) (account Hook.name v.afters) (account Hook.name v'.afters)

namespace Beside

variable {others : Timing → Text → Bool} {v v' : Visit σ ι}

theorem events_eq (h : v.Beside others v') :
    v.events = v'.events.filter (BracketEvent.among others) := by
  have hcall : (v'.inside.toList.map BracketEvent.call).filter (BracketEvent.among others) =
      v'.inside.toList.map BracketEvent.call :=
    List.filter_eq_self.2 fun e he ↦ by
      obtain ⟨ended, -, rfl⟩ := List.mem_map.1 he
      rfl
  unfold events
  simp only [List.filter_append, hcall]
  rw [h.befores.kept, h.entries.kept, h.inside, h.exits.kept, h.afters.kept]
  simp only [List.filter_map]
  rfl

theorem log_eq (h : v.Beside others v') (scope : Scope) (hook : HookFailure → φ)
    (within : ι → List φ) : v.log scope hook within = v'.log scope hook within := by
  unfold log wayIn wayOut
  rw [h.befores.failures_eq, h.entries.failures_eq, h.inside, h.exits.failures_eq,
    h.afters.failures_eq]

end Beside

end Visit

theorem Visit.Beside.reports {others : Timing → Text → Bool} {v v' : Visit σ (Outcome ε α)}
    (h : v.Beside others v') {scope : Scope} {outcome : Outcome (BracketError ε) α}
    (hv : v.Reports scope outcome) : v'.Reports scope outcome := by
  have hlog := h.log_eq scope BracketError.hook Outcome.failures
  cases hv with
  | panic hinside => exact .panic (h.inside ▸ hinside)
  | error hinside hfirst => exact .error (h.inside ▸ hinside) (hlog ▸ hfirst)
  | ok hinside hnone => exact .ok (h.inside ▸ hinside) (hlog ▸ hnone)

/-- What is on the right has its like on the left. -/
theorem exists_forall₂_left {R : α → β → Prop} {as : List α} {bs : List β}
    (h : List.Forall₂ R as bs) {b : β} (hb : b ∈ bs) : ∃ a ∈ as, R a b := by
  induction h with
  | nil => cases hb
  | cons hab _ ih =>
    rcases List.mem_cons.1 hb with rfl | hb
    · exact ⟨_, List.mem_cons_self, hab⟩
    · obtain ⟨a, ha, hR⟩ := ih hb
      exact ⟨a, List.mem_cons_of_mem _ ha, hR⟩

/-- A call that is made or not from states with the same view. -/
theorem Call.KeepsTo.inside_eq {view : σ → υ} {call : Call σ ε α} (h : call.KeepsTo view)
    {inside inside' : Option (Outcome ε α)} {w w₁ w' w₁' : σ}
    (hsome : inside.isSome ↔ inside'.isSome)
    (hrun : inside.elim (w = w₁) fun outcome ↦ call w = (outcome, w₁))
    (hrun' : inside'.elim (w' = w₁') fun outcome ↦ call w' = (outcome, w₁'))
    (hview : view w = view w') : inside = inside' ∧ view w₁ = view w₁' := by
  cases inside with
  | none =>
    obtain rfl : inside' = none := by simpa using hsome
    obtain rfl : w = w₁ := hrun
    obtain rfl : w' = w₁' := hrun'
    exact ⟨rfl, hview⟩
  | some outcome =>
    obtain ⟨outcome', rfl⟩ := Option.isSome_iff_exists.1 (hsome.1 rfl)
    have hcall : call w = (outcome, w₁) := hrun
    have hcall' : call w' = (outcome', w₁') := hrun'
    have hboth := h w w' hview
    rw [hcall, hcall', Outcome.alike_eq_iff] at hboth
    exact ⟨congrArg some hboth.1, hboth.2⟩

namespace Bracket

variable {others : Timing → Text → Bool} {view : σ → υ} {target : HookSubject} {b b' : Bracket σ}

/-- The hooks of one timing, with what is known of those of the first bracket. -/
theorem Beside.forall₂ (hb : b.Beside others view target b') (hkeeps : b.KeepsTo view target)
    (t : Timing) :
    List.Forall₂ (fun h h' ↦ h.callback.KeepsTo view target t ∧ h.Same h') (b.hooksAt t)
      ((b'.hooksAt t).filter fun h ↦ others t h.name) :=
  (List.forall₂_and_left _ _).2 ⟨hkeeps t, hb.kept t⟩

/-- Visits of the two brackets from states with the same view. -/
theorem Beside.visits (hb : b.Beside others view target b') (hkeeps : b.KeepsTo view target)
    {call : Call σ ε α} (hcall : call.KeepsTo view) {v v' : Visit σ (Outcome ε α)}
    {w w₁ w' w₁' : σ} (hv : v.Happens target (fun o w₁ w₂ ↦ call w₁ = (o, w₂)) w w₁)
    (horderly : v.Orderly b) (hv' : v'.Happens target (fun o w₁ w₂ ↦ call w₁ = (o, w₂)) w' w₁')
    (horderly' : v'.Orderly b') (hview : view w = view w') :
    v.Beside others v' ∧ view w₁ = view w₁' := by
  obtain ⟨x₁, x₂, x₃, x₄, hbefores, hentries, hinside, hexits, hafters⟩ := hv
  obtain ⟨y₁, y₂, y₃, y₄, hbefores', hentries', hinside', hexits', hafters'⟩ := hv'
  have hname {t : Timing} (h h' : Hook σ t)
      (hsame : h.callback.KeepsTo view target t ∧ h.Same h') : h.name = h'.name := hsame.2.name
  obtain ⟨hbegun, hview₁⟩ : RanBeside Hook.name (others .before) _ Eq (fun _ ↦ True) v.befores
      v'.befores ∧ view x₁ = view y₁ := by
    refine UpToFailure.beside (fun h h' ⟨hkeep, hsame⟩ ↦ ?_) (hb.forall₂ hkeeps .before)
      (hb.unseen .before) horderly.befores hbefores horderly'.befores hbefores' hview
    rw [← hsame.callback]
    exact hkeep
  have hbegun' := hbegun.accountBeside hname
  obtain ⟨hentered, hview₂⟩ : RanBeside Hook.name (others .around)
      (fun h h' ↦ h.callback.KeepsTo view target .around ∧ h.Same h') (Call.LooksLike view Eq)
      (Call.Unseen view fun _ ↦ True) v.entries v'.entries ∧ view x₂ = view y₂ := by
    by_cases hsucceeded : Succeeded v.befores
    · refine UpToFailure.beside (fun h h' ⟨hkeep, hsame⟩ ↦ ?_) (hb.forall₂ hkeeps .around)
        (hb.unseen .around) (horderly.entries hsucceeded) hentries
        (horderly'.entries (hbegun'.succeeded_iff.1 hsucceeded)) hentries' hview₁
      rw [← hsame.callback]
      exact hkeep
    · rw [horderly.no_entries hsucceeded] at hentries ⊢
      rw [horderly'.no_entries (mt hbegun'.succeeded_iff.2 hsucceeded)] at hentries' ⊢
      cases hentries
      cases hentries'
      exact ⟨.nil, hview₁⟩
  have hentered' := hentered.accountBeside hname
  have hsome : v.inside.isSome ↔ v'.inside.isSome := by
    rw [horderly.inside, horderly'.inside, hbegun'.succeeded_iff, hentered'.succeeded_iff]
  obtain ⟨hsame, hview₃⟩ := hcall.inside_eq hsome hinside hinside' hview₂
  obtain ⟨hguards, hunseen⟩ := hentered.handedOut hname
  obtain ⟨hexited, hview₄⟩ : RanBeside HeldGuard.name (others .around)
      (fun g g' : HeldGuard σ ↦ g.name = g'.name ∧ g.exit.LooksLike view Eq g'.exit) Eq
      (fun _ ↦ True) v.exits v'.exits ∧ view x₄ = view y₄ := by
    refine Ran.beside_of_all (fun g g' hg ↦ hg.2) ?_ ?_ horderly.exits hexits horderly'.exits
      hexits' hview₃
    · rw [List.filter_reverse]
      exact List.rel_reverse hguards
    · exact fun g hg ↦ hunseen g (List.mem_reverse.1 hg)
  obtain ⟨hcleaned, hview₅⟩ : RanBeside Hook.name (others .after) _ Eq (fun _ ↦ True) v.afters
      v'.afters ∧ view w₁ = view w₁' := by
    refine Ran.beside_of_all (fun h h' ⟨hkeep, hsame⟩ ↦ ?_) (hb.forall₂ hkeeps .after)
      (hb.unseen .after) horderly.afters hafters horderly'.afters hafters' hview₄
    rw [← hsame.callback]
    exact hkeep
  exact ⟨⟨hbegun', hentered', hsame, hexited.accountBeside fun _ _ hg ↦ hg.1,
    hcleaned.accountBeside hname⟩, hview₅⟩

/-- No callback breaks off that is not noticed. -/
theorem Beside.returns (hb : b.Beside others view target b') (h : b.Returns target) :
    b'.Returns target := by
  have hcalled {γ : Type} {good : γ → Prop} {c : Call σ Text γ} (hc : c.Unseen view good) :
      c.Returns := fun w ↦
    have ⟨a, w', heq, _, _⟩ := hc w
    ⟨.ok a, w', heq⟩
  have hhook (t : Timing) (P : Callback σ t → Prop) (hkept : ∀ h ∈ b.hooksAt t, P h.callback)
      (hunseen : ∀ c, Callback.Unseen view target t c → P c) :
      ∀ h ∈ b'.hooksAt t, P h.callback := by
    intro h hmem
    cases hother : others t h.name with
    | false => exact hunseen h.callback (hb.unseen t h hmem hother)
    | true =>
      obtain ⟨g, hg, hsame⟩ := exists_forall₂_left (hb.kept t) (List.mem_filter.2 ⟨hmem, hother⟩)
      rw [← hsame.callback]
      exact hkept g hg
  refine ⟨?befores, ?arounds, ?guards, ?afters⟩
  case befores =>
    exact hhook .before (fun c ↦ Call.Returns (c target)) h.befores fun _ hc ↦ hcalled hc
  case arounds =>
    exact hhook .around (fun c ↦ Call.Returns (c target)) h.arounds fun _ hc ↦ hcalled hc
  case guards =>
    refine hhook .around (fun c ↦ ∀ w guard w', c target w = (.ok guard, w') → guard.Returns)
      h.guards fun c hc w guard w' heq ↦ ?_
    obtain ⟨guard', w'', heq', hguard, -⟩ := hc w
    cases heq.symm.trans heq'
    exact hcalled hguard
  case afters =>
    exact hhook .after (fun c ↦ Call.Returns (c target)) h.afters fun _ hc ↦ hcalled hc

/-- A call within a bracket ends in the same way and leaves the same view if the bracket is given
hooks that are not noticed, and the others are run in the same order and end in the same way. -/
theorem around_beside (hb : b.Beside others view target b') (hheld : b.entered = [])
    (hheld' : b'.entered = []) (hreturns : b.Returns target) (hkeeps : b.KeepsTo view target)
    {call : Call σ ε α} (hcall : call.KeepsTo view) {w w' : σ} (hview : view w = view w') :
    ∃ (v v' : Visit σ (Outcome ε α)) (outcome : Outcome (BracketError ε) α) (w₁ w₁' : σ),
      b.around target call w = (outcome, w₁) ∧ b'.around target call w' = (outcome, w₁') ∧
      v.Happens target (fun o w₁ w₂ ↦ call w₁ = (o, w₂)) w w₁ ∧ v.Orderly b ∧
      v'.Happens target (fun o w₁ w₂ ↦ call w₁ = (o, w₂)) w' w₁' ∧ v'.Orderly b' ∧
      v.events = v'.events.filter (BracketEvent.among others) ∧ view w₁ = view w₁' := by
  obtain ⟨v, outcome, w₁, heq, hv, horderly, hreports⟩ := around_visits hreturns hheld call w
  obtain ⟨v', outcome', w₁', heq', hv', horderly', hreports'⟩ :=
    around_visits (hb.returns hreturns) hheld' call w'
  obtain ⟨hbeside, hview'⟩ := hb.visits hkeeps hcall hv horderly hv' horderly' hview
  obtain rfl : outcome = outcome' := by
    refine Visit.Reports.unique (hbeside.reports ?_) hreports'
    rw [← hb.scope]
    exact hreports
  exact ⟨v, v', outcome, w₁, w₁', heq, heq', hv, horderly, hv', horderly', hbeside.events_eq,
    hview'⟩

end Bracket

end Gherkin
