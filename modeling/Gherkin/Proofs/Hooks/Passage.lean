import Gherkin.Registry.Basic

/-!
# Breaking off in a bracket

A passage is the record of one call within a bracket any of whose callbacks may break off. What the
bracket does next depends on where that happens. A call that breaks off is followed by the whole way
out. A hook that breaks off on the way in, or a guard, leaves the guards to be released and skips
the after hooks; an after hook skips those that come after it.

Main statements: a bracket is passed through in this way (`Bracket.around_passage`), and so is a
call that a registry wraps (`wrap_runs_after_hooks_unless_hook_breaks_off`).
-/

namespace Gherkin

variable {σ ε α β γ φ : Type}

namespace Outcome

/-- Whether a call returned a value. -/
def isOk : Outcome ε α → Bool
  | ok _ => true
  | error _ | panic _ => false

/-- What a call returned, if it did. -/
def value? : Outcome ε α → Option α
  | ok a => some a
  | error _ | panic _ => none

def payload? : Outcome ε α → Option Payload
  | panic p => some p
  | ok _ | error _ => none

theorem payload?_mapError {ε' : Type} (f : ε → ε') (o : Outcome ε α) :
    (o.mapError f).payload? = o.payload? := by
  cases o <;> rfl

/-- A way out that breaks off has the last word. -/
theorem payload?_settle (inside : Outcome (BracketError ε) α) (exit : Outcome HookFailure Unit) :
    (inside.settle exit).payload? = exit.payload?.or inside.payload? := by
  cases inside <;> cases exit <;> rfl

end Outcome

/-- The payloads of the callbacks that broke off, in time. -/
def payloads (ran : List (β × Outcome Text γ)) : List Payload := ran.filterMap (·.2.payload?)

@[simp] theorem payloads_nil : payloads (γ := γ) ([] : List (β × Outcome Text γ)) = [] := rfl

theorem payloads_append (ran more : List (β × Outcome Text γ)) :
    payloads (ran ++ more) = payloads ran ++ payloads more :=
  List.filterMap_append

def AllReturned (ran : List (β × Outcome Text γ)) : Prop := ∀ p ∈ ran, p.2.isOk

/-- The guards that were handed out, oldest first. -/
def guardsOf (entries : List (Hook σ .around × Outcome Text (Guard σ))) : List (HeldGuard σ) :=
  entries.filterMap fun p ↦ p.2.value?.map (⟨p.1.name, ·⟩)

/-- The items are called one after the other from the first state to the second, and end in these
ways. -/
inductive Called (run : β → Call σ Text γ) : σ → List (β × Outcome Text γ) → σ → Prop
  | nil {w : σ} : Called run w [] w
  | cons {item : β} {outcome : Outcome Text γ} {ran : List (β × Outcome Text γ)} {w w' w'' : σ} :
    run item w = (outcome, w') → Called run w' ran w'' → Called run w ((item, outcome) :: ran) w''

theorem Called.append {run : β → Call σ Text γ} {ran more : List (β × Outcome Text γ)}
    {w w' w'' : σ} (h : Called run w ran w') (h' : Called run w' more w'') :
    Called run w (ran ++ more) w'' := by
  induction h with
  | nil => exact h'
  | cons hrun _ ih => exact .cons hrun (ih h')

/-- Items are called in order as long as it goes on; the one at which it does not is the last. -/
inductive UpTo (goesOn : Outcome Text γ → Bool) : List β → List (β × Outcome Text γ) → Prop
  | nil : UpTo goesOn [] []
  | last {item : β} {items : List β} {outcome : Outcome Text γ} :
    goesOn outcome = false → UpTo goesOn (item :: items) [(item, outcome)]
  | cons {item : β} {items : List β} {outcome : Outcome Text γ} {ran : List (β × Outcome Text γ)} :
    goesOn outcome → UpTo goesOn items ran → UpTo goesOn (item :: items) ((item, outcome) :: ran)

namespace UpTo

variable {goesOn : Outcome Text γ → Bool} {items : List β} {ran : List (β × Outcome Text γ)}

theorem front (h : UpTo goesOn items ran) : ran.map Prod.fst <+: items := by
  induction h with
  | nil => exact List.prefix_rfl
  | last _ => exact ⟨_, rfl⟩
  | cons _ _ ih => exact (List.prefix_cons_inj _).2 ih

/-- What is called is determined by the state in which the first item is. -/
theorem unique {run : β → Call σ Text γ} {ran' : List (β × Outcome Text γ)} {w w₁ w₂ : σ}
    (h : UpTo goesOn items ran) (hran : Called run w ran w₁) (h' : UpTo goesOn items ran')
    (hran' : Called run w ran' w₂) : ran' = ran ∧ w₂ = w₁ := by
  induction h generalizing w ran' with
  | nil =>
    cases h'
    cases hran
    cases hran'
    exact ⟨rfl, rfl⟩
  | last hstop =>
    cases hran with
    | cons hrun hrest =>
      cases hrest
      cases h' with
      | last _ =>
        cases hran' with
        | cons hrun' hrest' =>
          cases hrest'
          cases hrun.symm.trans hrun'
          exact ⟨rfl, rfl⟩
      | cons hgo _ =>
        cases hran' with
        | cons hrun' _ =>
          cases hrun.symm.trans hrun'
          exact absurd hgo (Bool.eq_false_iff.1 hstop)
  | cons hgo _ ih =>
    cases hran with
    | cons hrun hrest =>
      cases h' with
      | last hstop =>
        cases hran' with
        | cons hrun' _ =>
          cases hrun.symm.trans hrun'
          exact absurd hgo (Bool.eq_false_iff.1 hstop)
      | cons _ h' =>
        cases hran' with
        | cons hrun' hrest' =>
          cases hrun.symm.trans hrun'
          obtain ⟨rfl, rfl⟩ := ih hrest h' hrest'
          exact ⟨rfl, rfl⟩

/-- If it always goes on, nothing is left out. -/
theorem all (h : UpTo goesOn items ran) (hall : ∀ p ∈ ran, goesOn p.2) :
    ran.map Prod.fst = items := by
  induction h with
  | nil => rfl
  | last hstop => exact absurd (hall _ List.mem_cons_self) (Bool.eq_false_iff.1 hstop)
  | cons _ _ ih => rw [List.map_cons, ih (List.forall_mem_cons.1 hall).2]

end UpTo

/-! ## The halves of a bracket -/

/-- How the callbacks of a half that ended in some way ended themselves. -/
structure Accounts (outcome : Outcome φ Unit) (ran : List (β × Outcome Text γ)) : Prop where
  isOk : outcome.isOk ↔ AllReturned ran
  payloads : payloads ran = outcome.payload?.toList

namespace Accounts

variable {outcome : Outcome φ Unit} {ran : List (β × Outcome Text γ)}

theorem nil : Accounts (.ok () : Outcome φ Unit) ([] : List (β × Outcome Text γ)) :=
  ⟨iff_of_true rfl fun _ h ↦ absurd h List.not_mem_nil, rfl⟩

theorem error (item : β) (m : Text) (f : φ) :
    Accounts (.error f) [(item, (.error m : Outcome Text γ))] :=
  ⟨iff_of_false Bool.false_ne_true fun h ↦ Bool.false_ne_true (h _ List.mem_cons_self), rfl⟩

theorem panic (item : β) (p : Payload) :
    Accounts (.panic p : Outcome φ Unit) [(item, (.panic p : Outcome Text γ))] :=
  ⟨iff_of_false Bool.false_ne_true fun h ↦ Bool.false_ne_true (h _ List.mem_cons_self), rfl⟩

theorem cons_ok (h : Accounts outcome ran) (item : β) (c : γ) :
    Accounts outcome ((item, .ok c) :: ran) := by
  refine ⟨?_, h.payloads⟩
  rw [h.isOk, AllReturned, AllReturned, List.forall_mem_cons]
  exact (and_iff_right rfl).symm

end Accounts

namespace Bracket

section Halves

variable (scope : Scope) (target : HookSubject)

theorem runBefores_called (hooks : List (Hook σ .before)) (w : σ) :
    ∃ ran, Called (fun hook ↦ hook.callback target) w ran (runBefores scope target hooks w).2 ∧
      UpTo Outcome.isOk hooks ran ∧ Accounts (runBefores scope target hooks w).1 ran := by
  induction hooks generalizing w with
  | nil => exact ⟨[], .nil, .nil, .nil⟩
  | cons hook hooks ih =>
    rw [runBefores]
    rcases hrun : hook.callback target w with ⟨outcome, w₁⟩
    cases outcome with
    | ok _ =>
      obtain ⟨ran, hran, hup, haccounts⟩ := ih w₁
      exact ⟨_, .cons hrun hran, .cons rfl hup, haccounts.cons_ok hook ()⟩
    | error m => exact ⟨_, .cons hrun .nil, .last rfl, .error hook m _⟩
    | panic p => exact ⟨_, .cons hrun .nil, .last rfl, .panic hook p⟩

/-- The guards that are held afterwards are those that were handed out, on top of what was held. -/
theorem enterArounds_called (hooks : List (Hook σ .around)) (held : List (HeldGuard σ)) (w : σ) :
    ∃ ran outcome w', enterArounds scope target hooks held w =
        (outcome, (guardsOf ran).reverse ++ held, w') ∧
      Called (fun hook ↦ hook.callback target) w ran w' ∧ UpTo Outcome.isOk hooks ran ∧
      Accounts outcome ran := by
  induction hooks generalizing held w with
  | nil => exact ⟨[], .ok (), w, rfl, .nil, .nil, .nil⟩
  | cons hook hooks ih =>
    rw [enterArounds]
    rcases hrun : hook.callback target w with ⟨outcome, w₁⟩
    cases outcome with
    | ok guard =>
      obtain ⟨ran, outcome, w', heq, hran, hup, haccounts⟩ := ih (⟨hook.name, guard⟩ :: held) w₁
      refine ⟨_, outcome, w', heq.trans ?_, .cons hrun hran, .cons rfl hup,
        haccounts.cons_ok hook guard⟩
      simp [guardsOf, Outcome.value?]
    | error m => exact ⟨_, _, w₁, rfl, .cons hrun .nil, .last rfl, .error hook m _⟩
    | panic p => exact ⟨_, _, w₁, rfl, .cons hrun .nil, .last rfl, .panic hook p⟩

/-- Guards are released until one breaks off, which leaves those below it held. -/
theorem releaseGuards_called (guards : List (HeldGuard σ)) (first : Option HookFailure) (w : σ) :
    ∃ ran held result w', releaseGuards scope guards first w = (result, held, w') ∧
      Called HeldGuard.exit w ran w' ∧ UpTo (·.payload?.isNone) guards ran ∧
      ran.map Prod.fst ++ held = guards ∧
      payloads ran = (ending result).payload?.toList ∧ (payloads ran = [] → held = []) := by
  induction guards generalizing first w with
  | nil =>
    exact ⟨[], [], .ok first, w, rfl, .nil, .nil, rfl, by cases first <;> rfl, fun _ ↦ rfl⟩
  | cons g guards ih =>
    rw [releaseGuards]
    rcases hrun : g.exit w with ⟨outcome, w₁⟩
    cases outcome with
    | ok _ =>
      obtain ⟨ran, held, result, w', heq, hran, hup, hguards, hpayloads, hheld⟩ := ih first w₁
      exact ⟨_, held, result, w', heq, .cons hrun hran, .cons rfl hup, by simpa using hguards,
        hpayloads, hheld⟩
    | error m =>
      obtain ⟨ran, held, result, w', heq, hran, hup, hguards, hpayloads, hheld⟩ :=
        ih (first <|> some ⟨scope, .around, g.name, m⟩) w₁
      exact ⟨_, held, result, w', heq, .cons hrun hran, .cons rfl hup, by simpa using hguards,
        hpayloads, hheld⟩
    | panic p =>
      exact ⟨[(g, .panic p)], guards, .error p, w₁, rfl, .cons hrun .nil, .last rfl, rfl, rfl,
        fun h ↦ absurd h (List.cons_ne_nil _ _)⟩

/-- After hooks are run until one breaks off. -/
theorem runAfters_called (hooks : List (Hook σ .after)) (first : Option HookFailure) (w : σ) :
    ∃ ran, Called (fun hook ↦ hook.callback target) w ran
        (runAfters scope target hooks first w).2 ∧
      UpTo (·.payload?.isNone) hooks ran ∧
      payloads ran = (ending (runAfters scope target hooks first w).1).payload?.toList := by
  induction hooks generalizing first w with
  | nil => exact ⟨[], .nil, .nil, by cases first <;> rfl⟩
  | cons hook hooks ih =>
    rw [runAfters]
    rcases hrun : hook.callback target w with ⟨outcome, w₁⟩
    cases outcome with
    | ok _ =>
      obtain ⟨ran, hran, hup, hpayloads⟩ := ih first w₁
      exact ⟨_, .cons hrun hran, .cons rfl hup, hpayloads⟩
    | error m =>
      obtain ⟨ran, hran, hup, hpayloads⟩ := ih (first <|> some ⟨scope, .after, hook.name, m⟩) w₁
      exact ⟨_, .cons hrun hran, .cons rfl hup, hpayloads⟩
    | panic p => exact ⟨_, .cons hrun .nil, .last rfl, rfl⟩

end Halves

/-- The way in: around hooks are entered if all before hooks returned. -/
structure WentIn (b : Bracket σ) (befores : List (Hook σ .before × Outcome Text Unit))
    (entries : List (Hook σ .around × Outcome Text (Guard σ))) : Prop where
  begun : UpTo Outcome.isOk b.befores befores
  entered : AllReturned befores → UpTo Outcome.isOk b.arounds entries
  stopped : ¬AllReturned befores → entries = []

/-- The guards that are handed out on the way in come on top of those that are held. -/
theorem enter_called (b : Bracket σ) (target : HookSubject) (w : σ) :
    ∃ befores entries outcome w₁ w₂, b.enter target w =
        (outcome, { b with entered := (guardsOf entries).reverse ++ b.entered }, w₂) ∧
      Called (fun hook ↦ hook.callback target) w befores w₁ ∧
      Called (fun hook ↦ hook.callback target) w₁ entries w₂ ∧ b.WentIn befores entries ∧
      (outcome.isOk ↔ AllReturned befores ∧ AllReturned entries) ∧
      payloads befores ++ payloads entries = outcome.payload?.toList := by
  obtain ⟨befores, hbefores, hup, hin⟩ := runBefores_called b.scope target b.befores w
  rcases hrun : runBefores b.scope target b.befores w with ⟨outcome, w₁⟩
  rw [hrun] at hbefores hin
  by_cases hok : outcome.isOk
  · obtain rfl : outcome = .ok () := by
      cases outcome with
      | ok _ => rfl
      | error _ => cases hok
      | panic _ => cases hok
    obtain ⟨entries, outcome, w₂, henter, hentries, hup', hin'⟩ :=
      enterArounds_called b.scope target b.arounds b.entered w₁
    have hall : AllReturned befores := hin.isOk.1 rfl
    refine ⟨befores, entries, outcome, w₁, w₂, ?_, hbefores, hentries,
      ⟨hup, fun _ ↦ hup', fun hnot ↦ absurd hall hnot⟩, by rw [hin'.isOk, and_iff_right hall], ?_⟩
    · rw [enter, hrun]
      simp only [henter]
    · rw [hin.payloads, hin'.payloads]
      rfl
  · have hnot : ¬AllReturned befores := fun hall ↦ hok (hin.isOk.2 hall)
    refine ⟨befores, [], outcome, w₁, w₁, ?_, hbefores, .nil,
      ⟨hup, fun hall ↦ absurd hall hnot, fun _ ↦ rfl⟩,
      iff_of_false hok fun h ↦ hnot h.1, by rw [payloads_nil, List.append_nil, hin.payloads]⟩
    rw [enter, hrun]
    cases outcome with
    | ok _ => exact absurd rfl hok
    | error _ => rfl
    | panic _ => rfl

/-- The way out of a bracket that holds some guards. Each is released unless two things break off,
and after hooks are run unless a guard breaks off. -/
structure WentOut (b : Bracket σ) (exits : List (HeldGuard σ × Outcome Text Unit))
    (afters : List (Hook σ .after × Outcome Text Unit)) : Prop where
  front : exits.map Prod.fst <+: b.entered
  released : (payloads exits).length ≤ 1 → exits.map Prod.fst = b.entered
  cleanedUp : payloads exits = [] → UpTo (·.payload?.isNone) b.afters afters
  skipped : payloads exits ≠ [] → afters = []

theorem abandon_called (b : Bracket σ) (w : σ) :
    ∃ exits, Called HeldGuard.exit w exits (b.abandon w).2 ∧
      exits.map Prod.fst <+: b.entered ∧
      (payloads exits = [] → exits.map Prod.fst = b.entered) := by
  obtain ⟨exits, held, result, w', heq, hexits, -, hguards, -, hheld⟩ :=
    releaseGuards_called b.scope b.entered none w
  refine ⟨exits, ?_, ⟨held, hguards⟩, fun h ↦ ?_⟩
  · rw [abandon, heq]
    cases result <;> exact hexits
  · rw [← hguards, hheld h, List.append_nil]

theorem conclude_called (b : Bracket σ) (target : HookSubject)
    (inside : Outcome (BracketError ε) α) (w : σ) :
    ∃ exits afters outcome w₁ w₂, b.conclude target inside w = (outcome, w₂) ∧
      Called HeldGuard.exit w exits w₁ ∧
      Called (fun hook ↦ hook.callback target) w₁ afters w₂ ∧ b.WentOut exits afters ∧
      outcome.payload? = (payloads exits ++ payloads afters).head?.or inside.payload? := by
  obtain ⟨exits, held, result, w₁, heq, hexits, -, hguards, hpayloads, hheld⟩ :=
    releaseGuards_called b.scope b.entered none w
  rw [conclude, leave, heq]
  cases result with
  | ok first =>
    have hnone : payloads exits = [] := by
      rw [hpayloads]
      cases first <;> rfl
    obtain rfl : held = [] := hheld hnone
    rw [List.append_nil] at hguards
    obtain ⟨afters, hafters, hup, hpayloads'⟩ :=
      runAfters_called b.scope target b.afters first w₁
    refine ⟨exits, afters, _, w₁, _, rfl, hexits, hafters,
      ⟨hguards ▸ List.prefix_rfl, fun _ ↦ hguards, fun _ ↦ hup, fun h ↦ absurd hnone h⟩, ?_⟩
    rw [hnone, List.nil_append, hpayloads', Outcome.payload?_settle, Option.head?_toList]
  | error p =>
    -- What is released after the guard that broke off is released as the bracket is given up.
    obtain ⟨more, hmore, hfront, hall⟩ := abandon_called { b with entered := held } w₁
    have hsome : payloads exits = [p] := hpayloads
    have hpayloads : payloads (exits ++ more) = p :: payloads more := by
      rw [payloads_append, hsome]
      rfl
    refine ⟨exits ++ more, [], _, _, _, rfl, hexits.append hmore, .nil, ⟨?_, ?_, ?_, fun _ ↦ rfl⟩, ?_⟩
    · rw [List.map_append, ← hguards]
      exact (List.prefix_append_right_inj _).2 hfront
    · intro hone
      rw [hpayloads, List.length_cons] at hone
      rw [List.map_append, hall (List.eq_nil_of_length_eq_zero (by omega)), hguards]
    · intro hnone
      rw [hpayloads] at hnone
      cases hnone
    · rw [hpayloads, Outcome.payload?_settle]
      rfl

end Bracket

/-! ## Passages -/

/-- The record of a call within a bracket: what was called, in time, and how each of it ended. There
is nothing inside if the call was not run. -/
structure Passage (σ ε α : Type) where
  befores : List (Hook σ .before × Outcome Text Unit)
  entries : List (Hook σ .around × Outcome Text (Guard σ))
  inside : Option (Outcome ε α)
  exits : List (HeldGuard σ × Outcome Text Unit)
  afters : List (Hook σ .after × Outcome Text Unit)

namespace Passage

/-- The passage happens between two states: each callback is called in the state that the one
before it left. -/
def Happens (target : HookSubject) (call : Call σ ε α) (v : Passage σ ε α) (w w' : σ) : Prop :=
  ∃ w₁ w₂ w₃ w₄,
    Called (fun hook ↦ hook.callback target) w v.befores w₁ ∧
    Called (fun hook ↦ hook.callback target) w₁ v.entries w₂ ∧
    v.inside.elim (w₂ = w₃) (fun outcome ↦ call w₂ = (outcome, w₃)) ∧
    Called HeldGuard.exit w₃ v.exits w₄ ∧
    Called (fun hook ↦ hook.callback target) w₄ v.afters w'

/-- The payloads of the hooks and guards that broke off before the after hooks, in time. -/
def earlyBreaks (v : Passage σ ε α) : List Payload :=
  payloads v.befores ++ payloads v.entries ++ payloads v.exits

/-- The payloads of all that broke off, in time. -/
def breaks (v : Passage σ ε α) : List Payload :=
  payloads v.befores ++ payloads v.entries ++ (v.inside.bind Outcome.payload?).toList ++
    payloads v.exits ++ payloads v.afters

/-- The passage leads through a bracket: the way in is taken up to the first that does not return,
the call is run if all returned, and what is called on the way out are the guards that were handed
out, newest first, and after hooks of the bracket. No guard is left out unless two callbacks break
off. -/
structure Through (b : Bracket σ) (v : Passage σ ε α) : Prop where
  wayIn : b.WentIn v.befores v.entries
  inside : v.inside.isSome ↔ AllReturned v.befores ∧ AllReturned v.entries
  exits : v.exits.map Prod.fst <+: (guardsOf v.entries).reverse
  all_exits : v.breaks.length ≤ 1 → v.exits.map Prod.fst = (guardsOf v.entries).reverse
  afters : v.afters.map Prod.fst <+: b.afters

/-- After hooks are run in order up to the first that breaks off, but not at all if another hook or
a guard broke off before. -/
structure CleansUp (b : Bracket σ) (v : Passage σ ε α) : Prop where
  upTo : v.earlyBreaks = [] → UpTo (·.payload?.isNone) b.afters v.afters
  skipped : v.earlyBreaks ≠ [] → v.afters = []

/-- A passage ends by breaking off exactly if one of its callbacks did, and with its payload. -/
structure EndsIn (v : Passage σ ε α) (outcome : Outcome (BracketError ε) α) : Prop where
  isSome : outcome.payload?.isSome ↔ v.breaks ≠ []
  payload : v.breaks.length ≤ 1 → outcome.payload?.toList = v.breaks

theorem EndsIn.of_breaks {v : Passage σ ε α} {outcome : Outcome (BracketError ε) α}
    (inside : Option Payload) {ps : List Payload} (hbreaks : v.breaks = inside.toList ++ ps)
    (h : outcome.payload? = ps.head?.or inside) : v.EndsIn outcome := by
  refine ⟨?_, fun hone ↦ ?_⟩
  · rw [hbreaks, h]
    cases ps <;> cases inside <;> simp
  · rw [hbreaks] at hone ⊢
    rw [h]
    cases ps with
    | nil => simp
    | cons p ps =>
      simp only [List.length_append, List.length_cons] at hone
      obtain rfl : ps = [] := List.eq_nil_of_length_eq_zero (by omega)
      cases inside with
      | none => rfl
      | some _ => simp at hone

end Passage

namespace Bracket

variable {b : Bracket σ} {befores : List (Hook σ .before × Outcome Text Unit)}
  {entries : List (Hook σ .around × Outcome Text (Guard σ))}

/-- After a way in on which nothing broke off, whatever became of the call, the way out completes
the passage. -/
theorem WentIn.conclude_passage (hin : b.WentIn befores entries)
    (hnone : payloads befores ++ payloads entries = []) {target : HookSubject}
    (call : Call σ ε α) {w w₁ w₂ w₃ : σ}
    (hbefores : Called (fun hook ↦ hook.callback target) w befores w₁)
    (hentries : Called (fun hook ↦ hook.callback target) w₁ entries w₂)
    (inside : Option (Outcome ε α))
    (hinside : inside.elim (w₂ = w₃) fun outcome ↦ call w₂ = (outcome, w₃))
    (hisSome : inside.isSome ↔ AllReturned befores ∧ AllReturned entries)
    {o : Outcome (BracketError ε) α} (ho : o.payload? = inside.bind Outcome.payload?) :
    ∃ (v : Passage σ ε α) (outcome : Outcome (BracketError ε) α) (w' : σ),
      conclude { b with entered := (guardsOf entries).reverse } target o w₃ = (outcome, w') ∧
      v.Happens target call w w' ∧ v.Through b ∧ v.CleansUp b ∧ v.EndsIn outcome := by
  obtain ⟨exits, afters, outcome, w₄, w', heq, hexits, hafters, hout, hpayload⟩ :=
    conclude_called { b with entered := (guardsOf entries).reverse } target o w₃
  have hbreaks : Passage.breaks ⟨befores, entries, inside, exits, afters⟩ =
      (inside.bind Outcome.payload?).toList ++ (payloads exits ++ payloads afters) := by
    rw [Passage.breaks, hnone, List.nil_append, List.append_assoc]
  have hearly : Passage.earlyBreaks ⟨befores, entries, inside, exits, afters⟩ =
      payloads exits := by
    rw [Passage.earlyBreaks, hnone, List.nil_append]
  refine ⟨⟨befores, entries, inside, exits, afters⟩, outcome, w', heq,
    ⟨w₁, w₂, w₃, w₄, hbefores, hentries, hinside, hexits, hafters⟩,
    ⟨hin, hisSome, hout.front, fun hone ↦ hout.released ?_, ?_⟩,
    ⟨fun h ↦ hout.cleanedUp (hearly ▸ h), fun h ↦ hout.skipped (hearly ▸ h)⟩,
    .of_breaks _ hbreaks (ho ▸ hpayload)⟩
  · rw [hbreaks, List.length_append, List.length_append] at hone
    omega
  · by_cases hquiet : payloads exits = []
    · exact (hout.cleanedUp hquiet).front
    · rw [hout.skipped hquiet]
      exact List.nil_prefix

/-- After a way in that broke off, the guards that were handed out are released as the bracket is
given up. -/
theorem WentIn.abandon_passage (hin : b.WentIn befores entries) {p : Payload}
    (hone : payloads befores ++ payloads entries = [p])
    (hnot : ¬(AllReturned befores ∧ AllReturned entries)) {target : HookSubject}
    (call : Call σ ε α) {w w₁ w₂ : σ}
    (hbefores : Called (fun hook ↦ hook.callback target) w befores w₁)
    (hentries : Called (fun hook ↦ hook.callback target) w₁ entries w₂) :
    ∃ v : Passage σ ε α,
      v.Happens target call w (abandon { b with entered := (guardsOf entries).reverse } w₂).2 ∧
      v.Through b ∧ v.CleansUp b ∧ v.EndsIn (.panic p) := by
  obtain ⟨exits, hexits, hfront, hall⟩ :=
    abandon_called { b with entered := (guardsOf entries).reverse } w₂
  have hbreaks : Passage.breaks (ε := ε) (α := α) ⟨befores, entries, none, exits, []⟩ =
      p :: payloads exits := by
    simp [Passage.breaks, hone]
  refine ⟨⟨befores, entries, none, exits, []⟩,
    ⟨w₁, w₂, w₂, _, hbefores, hentries, rfl, hexits, .nil⟩,
    ⟨hin, iff_of_false Bool.false_ne_true hnot, hfront, fun hle ↦ hall ?_, List.nil_prefix⟩,
    ⟨fun h ↦ ?_, fun _ ↦ rfl⟩, .of_breaks none hbreaks rfl⟩
  · rw [hbreaks, List.length_cons] at hle
    exact List.eq_nil_of_length_eq_zero (by omega)
  · rw [Passage.earlyBreaks, hone] at h
    cases h

/-- A call within a bracket is passed through in order, also if something breaks off. -/
theorem around_passage (b : Bracket σ) (hheld : b.entered = []) (target : HookSubject)
    (call : Call σ ε α) (w : σ) :
    ∃ (v : Passage σ ε α) (outcome : Outcome (BracketError ε) α) (w' : σ),
      b.around target call w = (outcome, w') ∧ v.Happens target call w w' ∧ v.Through b ∧
      v.CleansUp b ∧ v.EndsIn outcome := by
  obtain ⟨befores, entries, entry, w₁, w₂, henter, hbefores, hentries, hin, hisOk, hpayloads⟩ :=
    b.enter_called target w
  rw [hheld, List.append_nil] at henter
  rw [around, henter]
  cases entry with
  | ok _ =>
    exact hin.conclude_passage hpayloads call hbefores hentries (some (call w₂).1) rfl
      (iff_of_true rfl (hisOk.1 rfl)) (Outcome.payload?_mapError BracketError.call _)
  | error f =>
    exact hin.conclude_passage hpayloads call hbefores hentries none rfl
      (iff_of_false Bool.false_ne_true fun h ↦ Bool.false_ne_true (hisOk.2 h)) rfl
  | panic p =>
    obtain ⟨v, hhappens, hthrough, hcleansUp, hends⟩ := hin.abandon_passage hpayloads
      (fun h ↦ Bool.false_ne_true (hisOk.2 h)) call hbefores hentries
    exact ⟨v, .panic p, _, rfl, hhappens, hthrough, hcleansUp, hends⟩

end Bracket

/-- No hook and no guard of the passage broke off; the call may have. -/
def Passage.HooksEnd (v : Passage σ ε α) : Prop := v.earlyBreaks = [] ∧ payloads v.afters = []

/-- If no hook broke off, the after hooks are run that there are, each of them once. -/
theorem Passage.CleansUp.map_fst {b : Bracket σ} {v : Passage σ ε α} (h : v.CleansUp b)
    (hend : v.HooksEnd) : v.afters.map Prod.fst = b.afters := by
  refine (h.upTo hend.1).all fun p hp ↦ ?_
  have hnone := List.filterMap_eq_nil_iff.1 hend.2 p hp
  rw [hnone]
  rfl

/-- A call that a registry wraps is passed through by the hooks of its scope, whatever breaks off.
Every after hook is run exactly once if no hook or guard broke off, also if the call did. They are
run up to the one that breaks off, if one does, and none of them is run after a before hook, an
around hook or a guard broke off. Every guard is released that was handed out, unless two callbacks
break off, and what breaks off leaves the call. -/
theorem wrap_runs_after_hooks_unless_hook_breaks_off (r : Registry σ) (scope : Scope)
    (target : HookSubject) (call : Call σ ε α) (w : σ) :
    (r.bracket scope).TakenFrom r.hooks scope ∧
      ∃ (v : Passage σ ε α) (outcome : Outcome (BracketError ε) α) (w' : σ),
        r.wrap scope target call w = (outcome, w') ∧ v.Happens target call w w' ∧
        v.Through (r.bracket scope) ∧ v.CleansUp (r.bracket scope) ∧ v.EndsIn outcome ∧
        (v.HooksEnd → (v.afters.map Prod.fst).Perm (r.hooks.bucket scope .after)) := by
  obtain ⟨v, outcome, w', heq, hhappens, hthrough, hcleansUp, hends⟩ :=
    (r.bracket scope).around_passage rfl target call w
  refine ⟨r.bracket_takenFrom scope, v, outcome, w', heq, hhappens, hthrough, hcleansUp, hends,
    fun hend ↦ ?_⟩
  rw [hcleansUp.map_fst hend, (r.bracket_takenFrom scope).afters_eq]
  exact List.mergeSort_perm _ _

def Hook.tripping : Hook (List Text) .before :=
  ⟨"trip".toList, 1, 0, .user, 1, fun _ w ↦ (.panic (.text "boom".toList), w)⟩

/-- A hook that notes in the state that it is run. -/
def Hook.tidying : Hook (List Text) .after :=
  ⟨"tidy".toList, 2, 0, .user, 2, fun _ w ↦ (.ok (), "tidied".toList :: w)⟩

/-- A registry in every scope of which a before hook breaks off. -/
def Registry.tripping : Registry (List Text) where
  hooks :=
    { buckets := fun _ t ↦
        match t with
        | .before => [.tripping]
        | .around => []
        | .after => [.tidying] }

theorem bracket_tripping (scope : Scope) :
    Registry.tripping.bracket scope =
      { scope := scope, befores := [.tripping], arounds := [], afters := [.tidying] } := by
  simp [Registry.bracket, Bracket.ofTable, HookTable.ordered, HookTable.bucket, Registry.tripping]

/-- A single callback that breaks off need not be the call, so it may skip after hooks: after a
before hook broke off, one that notes that it is run has noted nothing. -/
theorem not_wrap_runs_every_after_hook :
    ¬∀ (r : Registry (List Text)) (scope : Scope) (target : HookSubject)
      (call : Call (List Text) Text Unit) (w : List Text),
      ∃ (v : Passage (List Text) Text Unit) (outcome : Outcome (BracketError Text) Unit)
        (w' : List Text),
        r.wrap scope target call w = (outcome, w') ∧ v.Happens target call w w' ∧
        v.Through (r.bracket scope) ∧
        (v.breaks.length ≤ 1 →
          (v.afters.map Prod.fst).Perm (r.hooks.bucket scope .after)) := by
  intro h
  obtain ⟨⟨befores, entries, inside, exits, afters⟩, outcome, w', heq, hhappens, hthrough, hperm⟩ :=
    h Registry.tripping .all .all (Call.pure ()) []
  rw [bracket_tripping] at hthrough
  obtain ⟨w₁, w₂, w₃, w₄, hbefores, hentries, hinside, hexits, hafters⟩ := hhappens
  have hrun : w' = [] := by
    rw [Registry.wrap, bracket_tripping] at heq
    cases heq
    rfl
  obtain ⟨⟨hbegun, -, hstopped⟩, hisSome, hreleased, -, hfront⟩ := hthrough
  have hbroke : befores = [(.tripping, .panic (.text "boom".toList))] ∧ w₁ = [] := by
    cases hbegun with
    | last _ =>
      cases hbefores with
      | cons hcall hrest => cases hcall; cases hrest; exact ⟨rfl, rfl⟩
    | cons hgoesOn _ =>
      cases hbefores with
      | cons hcall _ => cases hcall; cases hgoesOn
  obtain ⟨rfl, rfl⟩ := hbroke
  have hnot : ¬AllReturned [(Hook.tripping, (.panic (.text "boom".toList) : Outcome Text Unit))] :=
    fun hall ↦ Bool.false_ne_true (hall _ List.mem_cons_self)
  obtain rfl : entries = [] := hstopped hnot
  obtain rfl : inside = none :=
    Option.not_isSome_iff_eq_none.1 fun hsome ↦ hnot (hisSome.1 hsome).1
  obtain rfl : exits = [] := List.map_eq_nil_iff.1 (List.prefix_nil.1 hreleased)
  cases hafters with
  | nil =>
    have hlength := (hperm Nat.le.refl).length_eq
    cases hlength
  | @cons hook _ rest _ _ _ hcall hrest =>
    obtain ⟨rfl, hrest'⟩ := List.cons_prefix_cons.1 hfront
    obtain rfl : rest = [] := List.map_eq_nil_iff.1 (List.prefix_nil.1 hrest')
    cases hcall
    cases hrest
    cases hrun

end Gherkin
