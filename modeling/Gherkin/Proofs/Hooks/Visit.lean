import Gherkin.Registry.Basic

/-!
# What happens in a bracket

A visit is the record of one call that was run within a bracket: which hooks were run, which guards
were released, and what each of them returned. The record is held against the callbacks themselves,
which pass the state on from one to the next, so it tells the order in which they were run.

Main statements: a bracket whose callbacks do not break off is visited in order and reports the
first failure of its visit (`Bracket.around_visits`), and so does a registry
(`wrap_visits_in_order_and_reports_first_failure`).
-/

namespace Gherkin

variable {σ ε α β γ ι φ : Type}

/-- How a call ends that does not break off. -/
def Outcome.ofExcept : Except ε α → Outcome ε α
  | .ok a => .ok a
  | .error e => .error e

/-- A call that may fail but never breaks off. -/
def Call.Returns (c : Call σ ε α) : Prop := ∀ w, ∃ result w', c w = (.ofExcept result, w')

/-- No hook of a bracket breaks off for the target, nor does a guard that one hands out. -/
structure Bracket.Returns (b : Bracket σ) (target : HookSubject) : Prop where
  befores : ∀ h ∈ b.befores, Call.Returns (h.callback target)
  arounds : ∀ h ∈ b.arounds, Call.Returns (h.callback target)
  guards : ∀ h ∈ b.arounds, ∀ w guard w', h.callback target w = (.ok guard, w') → guard.Returns
  afters : ∀ h ∈ b.afters, Call.Returns (h.callback target)

/-- The items are run one after the other from the first state to the second, with these results. -/
inductive Ran (run : β → Call σ Text γ) : σ → List (β × Except Text γ) → σ → Prop
  | nil {w : σ} : Ran run w [] w
  | cons {item : β} {result : Except Text γ} {ran : List (β × Except Text γ)} {w w' w'' : σ} :
    run item w = (.ofExcept result, w') → Ran run w' ran w'' →
      Ran run w ((item, result) :: ran) w''

theorem Ran.of_mem {run : β → Call σ Text γ} {ran : List (β × Except Text γ)} {w w' : σ}
    (h : Ran run w ran w') {item : β} {result : Except Text γ} (hmem : (item, result) ∈ ran) :
    ∃ w₁ w₂, run item w₁ = (.ofExcept result, w₂) := by
  induction h with
  | nil => cases hmem
  | @cons _ _ _ w₁ w₂ _ hrun _ ih =>
    rcases List.mem_cons.1 hmem with heq | hmem
    · cases heq
      exact ⟨w₁, w₂, hrun⟩
    · exact ih hmem

def Succeeded (ran : List (β × Except Text γ)) : Prop := ∀ p ∈ ran, p.2.isOk

/-- Items were run in order, up to and with the first that failed. -/
structure UpToFailure (items : List β) (ran : List (β × Except Text γ)) : Prop where
  front : ran.map Prod.fst <+: items
  succeeded_dropLast : Succeeded ran.dropLast
  all_of_succeeded : Succeeded ran → ran.map Prod.fst = items

/-- The failures among the results of callbacks, in time. -/
def failures (scope : Scope) (t : Timing) (name : β → Text) (ran : List (β × Except Text γ)) :
    List HookFailure :=
  ran.filterMap fun p ↦
    match p.2 with
    | .ok _ => none
    | .error m => some ⟨scope, t, name p.1, m⟩

/-- The guards that were handed out on the way in, oldest first. -/
def handedOut (entries : List (Hook σ .around × Except Text (Guard σ))) : List (HeldGuard σ) :=
  entries.filterMap fun p ↦ p.2.toOption.map (⟨p.1.name, ·⟩)

section Runs

variable {scope : Scope} {t : Timing} {name : β → Text}

theorem succeeded_iff_failures_eq_nil {ran : List (β × Except Text γ)} :
    Succeeded ran ↔ failures scope t name ran = [] := by
  rw [failures, List.filterMap_eq_nil_iff]
  refine forall₂_congr fun p _ ↦ ?_
  cases p.2 <;> simp [Except.isOk, Except.toBool]

theorem scope_of_mem_failures {ran : List (β × Except Text γ)} {failure : HookFailure}
    (h : failure ∈ failures scope t name ran) : failure.scope = scope := by
  obtain ⟨⟨item, result⟩, -, hresult⟩ := List.mem_filterMap.1 h
  cases result with
  | ok _ => cases hresult
  | error m =>
    cases hresult
    rfl

theorem UpToFailure.nil : UpToFailure (γ := γ) ([] : List β) [] :=
  ⟨List.prefix_rfl, fun _ h ↦ absurd h List.not_mem_nil, fun _ ↦ rfl⟩

theorem UpToFailure.failed {item : β} {items : List β} {m : Text} :
    UpToFailure (γ := γ) (item :: items) [(item, .error m)] := by
  refine ⟨by simp, fun _ h ↦ absurd h List.not_mem_nil, fun h ↦ ?_⟩
  exact absurd (h _ List.mem_cons_self) (by simp [Except.isOk, Except.toBool])

theorem UpToFailure.cons {item : β} {items : List β} {c : γ} {ran : List (β × Except Text γ)}
    (h : UpToFailure items ran) : UpToFailure (item :: items) ((item, .ok c) :: ran) := by
  refine ⟨?_, ?_, ?_⟩
  · simpa using h.front
  · cases ran with
    | nil => exact fun _ h ↦ absurd h List.not_mem_nil
    | cons p ran =>
      rw [List.dropLast_cons_cons]
      exact List.forall_mem_cons.2 ⟨rfl, h.succeeded_dropLast⟩
  · intro hall
    rw [List.map_cons, h.all_of_succeeded (List.forall_mem_cons.1 hall).2]

end Runs

/-- How something ends that had these failures, in time. -/
def endOf : List φ → Outcome φ Unit
  | [] => .ok ()
  | f :: _ => .error f

namespace Bracket

variable (scope : Scope) {target : HookSubject}

theorem runBefores_ran {hooks : List (Hook σ .before)}
    (h : ∀ hook ∈ hooks, Call.Returns (hook.callback target)) (w : σ) :
    ∃ ran w', Ran (fun hook ↦ hook.callback target) w ran w' ∧ UpToFailure hooks ran ∧
      runBefores scope target hooks w = (endOf (failures scope .before Hook.name ran), w') := by
  induction hooks generalizing w with
  | nil => exact ⟨[], w, .nil, .nil, rfl⟩
  | cons hook hooks ih =>
    obtain ⟨hhook, hhooks⟩ := List.forall_mem_cons.1 h
    obtain ⟨result, w₁, hrun⟩ := hhook w
    cases result with
    | error m =>
      refine ⟨_, w₁, .cons hrun .nil, .failed, ?_⟩
      rw [runBefores, hrun]
      rfl
    | ok _ =>
      obtain ⟨ran, w₂, hran, hup, heq⟩ := ih hhooks w₁
      refine ⟨_, w₂, .cons hrun hran, hup.cons, ?_⟩
      rw [runBefores, hrun]
      exact heq

/-- The guards that are held afterwards are those that were handed out, on top of what was held. -/
theorem enterArounds_ran {hooks : List (Hook σ .around)}
    (h : ∀ hook ∈ hooks, Call.Returns (hook.callback target)) (held : List (HeldGuard σ)) (w : σ) :
    ∃ ran w', Ran (fun hook ↦ hook.callback target) w ran w' ∧ UpToFailure hooks ran ∧
      enterArounds scope target hooks held w =
        (endOf (failures scope .around Hook.name ran), (handedOut ran).reverse ++ held, w') := by
  induction hooks generalizing held w with
  | nil => exact ⟨[], w, .nil, .nil, rfl⟩
  | cons hook hooks ih =>
    obtain ⟨hhook, hhooks⟩ := List.forall_mem_cons.1 h
    obtain ⟨result, w₁, hrun⟩ := hhook w
    cases result with
    | error m =>
      refine ⟨_, w₁, .cons hrun .nil, .failed, ?_⟩
      rw [enterArounds, hrun]
      rfl
    | ok guard =>
      obtain ⟨ran, w₂, hran, hup, heq⟩ := ih hhooks (⟨hook.name, guard⟩ :: held) w₁
      refine ⟨_, w₂, .cons hrun hran, hup.cons, ?_⟩
      rw [enterArounds, hrun]
      refine heq.trans ?_
      simp [failures, handedOut, Except.toOption]

/-- Guards are all released, whatever they report. -/
theorem releaseGuards_ran {guards : List (HeldGuard σ)} (h : ∀ g ∈ guards, g.exit.Returns)
    (first : Option HookFailure) (w : σ) :
    ∃ ran w', Ran HeldGuard.exit w ran w' ∧ ran.map Prod.fst = guards ∧
      releaseGuards scope guards first w =
        (.ok (first <|> (failures scope .around HeldGuard.name ran).head?), [], w') := by
  induction guards generalizing first w with
  | nil => exact ⟨[], w, .nil, rfl, by simp [releaseGuards, failures]⟩
  | cons g guards ih =>
    obtain ⟨hg, hguards⟩ := List.forall_mem_cons.1 h
    obtain ⟨result, w₁, hrun⟩ := hg w
    cases result with
    | error m =>
      obtain ⟨ran, w₂, hran, hmap, heq⟩ :=
        ih hguards (first <|> some ⟨scope, .around, g.name, m⟩) w₁
      refine ⟨_, w₂, .cons hrun hran, by rw [List.map_cons, hmap], ?_⟩
      rw [releaseGuards, hrun]
      refine heq.trans ?_
      cases first <;> simp [failures]
    | ok _ =>
      obtain ⟨ran, w₂, hran, hmap, heq⟩ := ih hguards first w₁
      refine ⟨_, w₂, .cons hrun hran, by rw [List.map_cons, hmap], ?_⟩
      rw [releaseGuards, hrun]
      exact heq

/-- After hooks are all run, whatever they report. -/
theorem runAfters_ran {hooks : List (Hook σ .after)}
    (h : ∀ hook ∈ hooks, Call.Returns (hook.callback target)) (first : Option HookFailure) (w : σ) :
    ∃ ran w', Ran (fun hook ↦ hook.callback target) w ran w' ∧ ran.map Prod.fst = hooks ∧
      runAfters scope target hooks first w =
        (.ok (first <|> (failures scope .after Hook.name ran).head?), w') := by
  induction hooks generalizing first w with
  | nil => exact ⟨[], w, .nil, rfl, by simp [runAfters, failures]⟩
  | cons hook hooks ih =>
    obtain ⟨hhook, hhooks⟩ := List.forall_mem_cons.1 h
    obtain ⟨result, w₁, hrun⟩ := hhook w
    cases result with
    | error m =>
      obtain ⟨ran, w₂, hran, hmap, heq⟩ :=
        ih hhooks (first <|> some ⟨scope, .after, hook.name, m⟩) w₁
      refine ⟨_, w₂, .cons hrun hran, by rw [List.map_cons, hmap], ?_⟩
      rw [runAfters, hrun]
      refine heq.trans ?_
      cases first <;> simp [failures]
    | ok _ =>
      obtain ⟨ran, w₂, hran, hmap, heq⟩ := ih hhooks first w₁
      refine ⟨_, w₂, .cons hrun hran, by rw [List.map_cons, hmap], ?_⟩
      rw [runAfters, hrun]
      exact heq

/-- The guards that were handed out do not break off. -/
theorem Returns.returns_of_mem_handedOut {b : Bracket σ} (h : b.Returns target)
    {ran : List (Hook σ .around × Except Text (Guard σ))} {w w' : σ}
    (hran : Ran (fun hook ↦ hook.callback target) w ran w')
    (hfront : ran.map Prod.fst <+: b.arounds) :
    ∀ g ∈ handedOut ran, g.exit.Returns := by
  intro g hg
  obtain ⟨⟨hook, result⟩, hmem, hresult⟩ := List.mem_filterMap.1 hg
  obtain ⟨w₁, w₂, hrun⟩ := hran.of_mem hmem
  have hhook : hook ∈ b.arounds := hfront.subset (List.mem_map_of_mem hmem)
  cases result with
  | error m => simp [Except.toOption] at hresult
  | ok guard =>
    obtain rfl : ⟨hook.name, guard⟩ = g := by simpa [Except.toOption] using hresult
    exact h.guards hook hhook w₁ guard w₂ hrun

end Bracket

/-! ## Visits -/

/-- The record of a call within a bracket. What became of the call itself is of any type, and there
is nothing if it was not run. -/
structure Visit (σ ι : Type) where
  befores : List (Hook σ .before × Except Text Unit)
  entries : List (Hook σ .around × Except Text (Guard σ))
  inside : Option ι
  exits : List (HeldGuard σ × Except Text Unit)
  afters : List (Hook σ .after × Except Text Unit)

namespace Visit

/-- The visit happens between two states: each callback is run on the state that the one before it
left. -/
def Happens (target : HookSubject) (within : ι → σ → σ → Prop) (v : Visit σ ι) (w w' : σ) : Prop :=
  ∃ w₁ w₂ w₃ w₄,
    Ran (fun hook ↦ hook.callback target) w v.befores w₁ ∧
    Ran (fun hook ↦ hook.callback target) w₁ v.entries w₂ ∧
    v.inside.elim (w₂ = w₃) (within · w₂ w₃) ∧
    Ran HeldGuard.exit w₃ v.exits w₄ ∧
    Ran (fun hook ↦ hook.callback target) w₄ v.afters w'

/-- Everything is run that has to be, in order: the way in up to the first failure, the call if
there was none, and the whole way out in any case. -/
structure Orderly (b : Bracket σ) (v : Visit σ ι) : Prop where
  befores : UpToFailure b.befores v.befores
  entries : Succeeded v.befores → UpToFailure b.arounds v.entries
  no_entries : ¬Succeeded v.befores → v.entries = []
  inside : v.inside.isSome ↔ Succeeded v.befores ∧ Succeeded v.entries
  exits : v.exits.map Prod.fst = (handedOut v.entries).reverse
  afters : v.afters.map Prod.fst = b.afters

def wayIn (scope : Scope) (v : Visit σ ι) : List HookFailure :=
  failures scope .before Hook.name v.befores ++ failures scope .around Hook.name v.entries

def wayOut (scope : Scope) (v : Visit σ ι) : List HookFailure :=
  failures scope .around HeldGuard.name v.exits ++ failures scope .after Hook.name v.afters

/-- What there is to tell of a visit, in time. -/
def log (scope : Scope) (hook : HookFailure → φ) (within : ι → List φ) (v : Visit σ ι) : List φ :=
  (v.wayIn scope).map hook ++ (v.inside.toList.flatMap within ++ (v.wayOut scope).map hook)

/-- The call is run exactly if nothing failed on the way in. -/
theorem Orderly.isSome_inside_iff {b : Bracket σ} {v : Visit σ ι} (h : v.Orderly b)
    (scope : Scope) : v.inside.isSome ↔ v.wayIn scope = [] := by
  rw [h.inside, wayIn, List.append_eq_nil_iff, succeeded_iff_failures_eq_nil,
    succeeded_iff_failures_eq_nil]

theorem scope_of_mem {v : Visit σ ι} {scope : Scope} {failure : HookFailure}
    (h : failure ∈ v.wayIn scope ++ v.wayOut scope) : failure.scope = scope := by
  unfold wayIn wayOut at h
  simp only [List.mem_append] at h
  rcases h with (h | h) | h | h <;> exact scope_of_mem_failures h

end Visit

def Outcome.failures : Outcome ε α → List (BracketError ε)
  | error e => [.call e]
  | ok _ | panic _ => []

/-- A visit ends as the call broke off, else with the first failure, else with the value. -/
inductive Visit.Reports (scope : Scope) (v : Visit σ (Outcome ε α)) :
    Outcome (BracketError ε) α → Prop
  | panic {p : Payload} : v.inside = some (.panic p) → Reports scope v (.panic p)
  | error {f : BracketError ε} {fs : List (BracketError ε)} :
    (∀ p, v.inside ≠ some (.panic p)) → v.log scope .hook Outcome.failures = f :: fs →
      Reports scope v (.error f)
  | ok {a : α} : v.inside = some (.ok a) → v.log scope .hook Outcome.failures = [] →
      Reports scope v (.ok a)

theorem Visit.Reports.unique {scope : Scope} {v : Visit σ (Outcome ε α)}
    {outcome outcome' : Outcome (BracketError ε) α} (h : v.Reports scope outcome)
    (h' : v.Reports scope outcome') : outcome = outcome' := by
  cases h <;> cases h' <;> simp_all

namespace Bracket

variable {target : HookSubject}

theorem ending_head? (fs gs : List HookFailure) :
    ending (.ok (fs.head?.orElse fun _ ↦ gs.head?)) = endOf (fs ++ gs) := by
  cases fs with
  | nil => cases gs <;> rfl
  | cons f fs => rfl

/-- Leaving a bracket releases everything that is held, so that nothing is left to be given up. -/
theorem conclude_ran {b : Bracket σ} (hguards : ∀ g ∈ b.entered, g.exit.Returns)
    (hafters : ∀ hook ∈ b.afters, Call.Returns (hook.callback target))
    (inside : Outcome (BracketError ε) α) (w : σ) :
    ∃ exits afters w' w'', Ran HeldGuard.exit w exits w' ∧ exits.map Prod.fst = b.entered ∧
      Ran (fun hook ↦ hook.callback target) w' afters w'' ∧ afters.map Prod.fst = b.afters ∧
      b.conclude target inside w =
        (inside.settle (endOf (failures b.scope .around HeldGuard.name exits ++
          failures b.scope .after Hook.name afters)), w'') := by
  obtain ⟨exits, w', hexits, hmap, heq⟩ := releaseGuards_ran b.scope hguards none w
  obtain ⟨afters, w'', hafters, hmap', heq'⟩ :=
    runAfters_ran b.scope hafters (failures b.scope .around HeldGuard.name exits).head? w'
  refine ⟨exits, afters, w', w'', hexits, hmap, hafters, hmap', ?_⟩
  have hleave : b.leave target w =
      (endOf (failures b.scope .around HeldGuard.name exits ++
        failures b.scope .after Hook.name afters), { b with entered := [] }, w'') := by
    rw [leave, heq]
    simp only [Option.orElse_eq_orElse, Option.orElse_none, heq', ending_head?]
  rw [conclude, hleave]
  rfl

/-- The way in from one state to another: the around hooks are entered if all before hooks
succeeded. -/
structure Entered (b : Bracket σ) (target : HookSubject)
    (begun : List (Hook σ .before × Except Text Unit))
    (entered : List (Hook σ .around × Except Text (Guard σ))) (w w' : σ) : Prop where
  ran : ∃ w₁, Ran (fun hook ↦ hook.callback target) w begun w₁ ∧
    Ran (fun hook ↦ hook.callback target) w₁ entered w'
  befores : UpToFailure b.befores begun
  entries : Succeeded begun → UpToFailure b.arounds entered
  no_entries : ¬Succeeded begun → entered = []

/-- Without hooks to run there is nothing to enter, so both cases leave the guards that were handed
out. -/
theorem enter_ran {b : Bracket σ} (hb : b.Returns target) (hheld : b.entered = []) (w : σ) :
    ∃ befores entries w', b.Entered target befores entries w w' ∧
      b.enter target w =
        (endOf (failures b.scope .before Hook.name befores ++
          failures b.scope .around Hook.name entries),
          { b with entered := (handedOut entries).reverse }, w') := by
  obtain ⟨befores, w', hbefores, hup, heq⟩ := runBefores_ran b.scope hb.befores w
  cases hfailures : failures b.scope .before Hook.name befores with
  | nil =>
    have hsucceeded : Succeeded befores := succeeded_iff_failures_eq_nil.2 hfailures
    obtain ⟨entries, w'', hentries, hup', heq'⟩ :=
      enterArounds_ran b.scope hb.arounds b.entered w'
    rw [hheld, List.append_nil] at heq'
    refine ⟨befores, entries, w'', ⟨⟨w', hbefores, hentries⟩, hup, fun _ ↦ hup',
      fun hnot ↦ absurd hsucceeded hnot⟩, ?_⟩
    rw [enter, heq, hfailures, List.nil_append]
    simp only [endOf, hheld, heq']
  | cons f fs =>
    have hnot : ¬Succeeded befores := fun hsucceeded ↦ by
      rw [succeeded_iff_failures_eq_nil.1 hsucceeded] at hfailures
      cases hfailures
    refine ⟨befores, [], w', ⟨⟨w', hbefores, .nil⟩, hup, fun h ↦ absurd h hnot,
      fun _ ↦ rfl⟩, ?_⟩
    rw [enter, heq, hfailures]
    obtain ⟨scope, befores, arounds, afters, entered⟩ := b
    obtain rfl : entered = [] := hheld
    rfl

/-- After the way in, whatever became of the call, leaving a bracket completes an orderly visit. -/
theorem Entered.conclude_visits {b : Bracket σ} (hb : b.Returns target)
    {befores : List (Hook σ .before × Except Text Unit)}
    {entries : List (Hook σ .around × Except Text (Guard σ))} {w w₂ : σ}
    (h : b.Entered target befores entries w w₂) (happens : ι → σ → σ → Prop) (inside : Option ι)
    (w₃ : σ) (hinside : inside.elim (w₂ = w₃) (happens · w₂ w₃))
    (hsome : inside.isSome ↔ Succeeded befores ∧ Succeeded entries)
    (o : Outcome (BracketError ε) α) :
    ∃ exits afters w', Visit.Happens target happens ⟨befores, entries, inside, exits, afters⟩ w w' ∧
      Visit.Orderly b ⟨befores, entries, inside, exits, afters⟩ ∧
      conclude { b with entered := (handedOut entries).reverse } target o w₃ =
        (o.settle (endOf (Visit.wayOut b.scope ⟨befores, entries, inside, exits, afters⟩)),
          w') := by
  obtain ⟨w₁, hbefores, hentries⟩ := h.ran
  have hfront : entries.map Prod.fst <+: b.arounds := by
    by_cases hsucceeded : Succeeded befores
    · exact (h.entries hsucceeded).front
    · simp [h.no_entries hsucceeded]
  have hguards : ∀ g ∈ (handedOut entries).reverse, g.exit.Returns := fun g hg ↦
    hb.returns_of_mem_handedOut hentries hfront g (List.mem_reverse.1 hg)
  obtain ⟨exits, afters, w₄, w', hexits, hmap, hafters, hmap', hconclude⟩ :=
    conclude_ran (b := { b with entered := (handedOut entries).reverse }) hguards hb.afters o w₃
  exact ⟨exits, afters, w',
    ⟨w₁, w₂, w₃, w₄, hbefores, hentries, hinside, hexits, hafters⟩,
    ⟨h.befores, h.entries, h.no_entries, hsome, hmap, hmap'⟩, hconclude⟩

/-- The call is not run after a failure on the way in, which is then the first. -/
theorem reports_of_wayIn {v : Visit σ (Outcome ε α)} {scope : Scope} {f : HookFailure}
    {fs : List HookFailure} (hin : v.wayIn scope = f :: fs) (hinside : v.inside = none) :
    v.Reports scope ((Outcome.error (.hook f)).settle (endOf (v.wayOut scope))) := by
  have hlog : v.log scope .hook Outcome.failures =
      .hook f :: (fs.map .hook ++ (v.wayOut scope).map .hook) := by
    rw [Visit.log, hin, hinside]
    rfl
  have herror : v.Reports scope (.error (.hook f)) := .error (by simp [hinside]) hlog
  cases v.wayOut scope <;> exact herror

/-- A call that was run comes before what goes wrong on the way out. -/
theorem reports_of_inside {v : Visit σ (Outcome ε α)} {scope : Scope} {o : Outcome ε α}
    (hin : v.wayIn scope = []) (hinside : v.inside = some o) :
    v.Reports scope ((o.mapError .call).settle (endOf (v.wayOut scope))) := by
  have hlog : v.log scope .hook Outcome.failures = o.failures ++ (v.wayOut scope).map .hook := by
    rw [Visit.log, hin, hinside, List.map_nil, List.nil_append, Option.toList_some,
      List.flatMap_singleton]
  cases o with
  | ok a =>
    cases hout : v.wayOut scope with
    | nil => exact .ok hinside (by rw [hlog, hout]; rfl)
    | cons f fs => exact .error (by simp [hinside]) (by rw [hlog, hout]; rfl)
  | error e =>
    have herror : v.Reports scope (.error (.call e)) := .error (by simp [hinside]) hlog
    cases v.wayOut scope <;> exact herror
  | panic p => cases v.wayOut scope <;> exact .panic hinside

/-- A call within a bracket is visited in order, and what the whole reports is read off the
visit. -/
theorem around_visits {b : Bracket σ} (hb : b.Returns target) (hheld : b.entered = [])
    (call : Call σ ε α) (w : σ) :
    ∃ (v : Visit σ (Outcome ε α)) (outcome : Outcome (BracketError ε) α) (w' : σ),
      b.around target call w = (outcome, w') ∧
      v.Happens target (fun o w₁ w₂ ↦ call w₁ = (o, w₂)) w w' ∧
      v.Orderly b ∧ v.Reports b.scope outcome := by
  obtain ⟨befores, entries, w₂, hentered, henter⟩ := enter_ran hb hheld w
  have hboth : (Succeeded befores ∧ Succeeded entries) ↔
      failures b.scope .before Hook.name befores ++ failures b.scope .around Hook.name entries =
        [] := by
    rw [List.append_eq_nil_iff, succeeded_iff_failures_eq_nil, succeeded_iff_failures_eq_nil]
  cases hin : failures b.scope .before Hook.name befores ++
      failures b.scope .around Hook.name entries with
  | nil =>
    obtain ⟨exits, afters, w', hhappens, horderly, hconclude⟩ :=
      hentered.conclude_visits hb (fun o w₁ w₂ ↦ call w₁ = (o, w₂)) (some (call w₂).1)
        (call w₂).2 rfl (iff_of_true rfl (hboth.2 hin)) ((call w₂).1.mapError .call)
    refine ⟨_, _, w', ?_, hhappens, horderly, reports_of_inside hin rfl⟩
    rw [around, henter, hin]
    exact hconclude
  | cons f fs =>
    have hnot : ¬(Succeeded befores ∧ Succeeded entries) := by
      rw [hboth, hin]
      exact List.cons_ne_nil f fs
    obtain ⟨exits, afters, w', hhappens, horderly, hconclude⟩ :=
      hentered.conclude_visits hb (fun o w₁ w₂ ↦ call w₁ = (o, w₂)) none w₂ rfl
        (iff_of_false Bool.false_ne_true hnot) (.error (.hook f) : Outcome (BracketError ε) α)
    refine ⟨_, _, w', ?_, hhappens, horderly, reports_of_wayIn hin rfl⟩
    rw [around, henter, hin]
    exact hconclude

end Bracket

/-- A call that a registry wraps is visited by the hooks of its scope, as the registry orders them.
They are run in order, up to the first failure on the way in and all of them on the way out; the
call is run if nothing failed before, each guard is released that was handed out, newest first; and
what is reported is that the call broke off, else what failed first. -/
theorem wrap_visits_in_order_and_reports_first_failure (r : Registry σ) (scope : Scope)
    (target : HookSubject) (hreturns : (r.bracket scope).Returns target) (call : Call σ ε α)
    (w : σ) :
    (r.bracket scope).TakenFrom r.hooks scope ∧
      ∃ (v : Visit σ (Outcome ε α)) (outcome : Outcome (BracketError ε) α) (w' : σ),
        r.wrap scope target call w = (outcome, w') ∧
        v.Happens target (fun o w₁ w₂ ↦ call w₁ = (o, w₂)) w w' ∧
        v.Orderly (r.bracket scope) ∧ v.Reports scope outcome :=
  ⟨r.bracket_takenFrom scope, Bracket.around_visits hreturns rfl call w⟩

/-- A registry with one hook of each timing in every scope, which note in the state that they are
run. The guards that are handed out fail, and so do the after hooks. -/
def Registry.noting : Registry (List Text) where
  hooks :=
    { buckets := fun _ t ↦
        match t with
        | .before => [⟨"before".toList, 1, 0, .user, 1, fun _ w ↦ (.ok (), "before".toList :: w)⟩]
        | .around =>
          [⟨"around".toList, 2, 0, .user, 2, fun _ w ↦
            (.ok fun w' ↦ (.error "stuck".toList, "exit".toList :: w'), "enter".toList :: w)⟩]
        | .after =>
          [⟨"after".toList, 3, 0, .user, 3,
            fun _ w ↦ (.error "late".toList, "after".toList :: w)⟩] }

theorem noting_returns (scope : Scope) (target : HookSubject) :
    (Registry.noting.bracket scope).Returns target := by
  refine ⟨?befores, ?arounds, ?guards, ?afters⟩
  case befores =>
    intro h hmem w
    obtain rfl := List.mem_singleton.1 (List.mem_mergeSort.1 hmem)
    exact ⟨.ok (), _, rfl⟩
  case arounds =>
    intro h hmem w
    obtain rfl := List.mem_singleton.1 (List.mem_mergeSort.1 hmem)
    exact ⟨.ok _, _, rfl⟩
  case guards =>
    intro h hmem w guard w' hrun w₁
    obtain rfl := List.mem_singleton.1 (List.mem_mergeSort.1 hmem)
    cases hrun
    exact ⟨.error _, _, rfl⟩
  case afters =>
    intro h hmem w
    obtain rfl := List.mem_singleton.1 (List.mem_mergeSort.1 hmem)
    exact ⟨.error _, _, rfl⟩

/-- A call that breaks off is visited in full, though the way out fails as well. -/
theorem wrap_visits_call_that_breaks_off :
    (Registry.noting.bracket .step).Returns .all ∧
      (Registry.noting.bracket .step).TakenFrom Registry.noting.hooks .step ∧
      ∃ (v : Visit (List Text) (Outcome Text Unit)) (outcome : Outcome (BracketError Text) Unit)
        (w' : List Text),
        Registry.noting.wrap .step .all (fun w ↦ (.panic (.text "stop".toList), w)) [] =
          (outcome, w') ∧
        v.Happens .all (fun o w₁ w₂ ↦ (.panic (.text "stop".toList), w₁) = (o, w₂)) [] w' ∧
        v.Orderly (Registry.noting.bracket .step) ∧ v.Reports .step outcome :=
  ⟨noting_returns .step .all,
    wrap_visits_in_order_and_reports_first_failure Registry.noting .step .all
      (noting_returns .step .all) (fun w ↦ (.panic (.text "stop".toList), w)) []⟩

end Gherkin
