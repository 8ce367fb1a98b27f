import Gherkin.Proofs.Hooks.Visit
import Gherkin.Registry.Run

/-!
# What happens in an example

The trace of an example nests three sorts of visits: that of the example, that of the background
within it, and those of single steps within either. Read from front to back it tells which handlers
were called and what failed.

Main statement: in the trace of an example all calls of handlers stand before all failures, and the
first failure is the one that is reported (`runExample_reports_earliest_failure`).
-/

namespace Gherkin

variable {σ ι : Type}

/-- One step as it was run. What became of the handler is kept as the handler left it. -/
inductive StepRun (σ : Type) where
  /-- No definition matches the step. -/
  | missing (index : Nat) (step : Step)
  /-- The step was run within its hooks. -/
  | wrapped (index : Nat) (step : Step) (pattern : Text)
      (visit : Visit σ (Outcome StepFailure Unit))

/-- What is run within the hooks of an example. -/
structure BodyRun (σ : Type) where
  background : Option (Visit σ (List (StepRun σ)))
  steps : List (StepRun σ)

/-- What there is to tell of an example. -/
inductive Moment where
  /-- The handler of a step is called. -/
  | called (step : Step)
  /-- Something fails. -/
  | failed (failure : ExampleFailure)

namespace Moment

def ofHook (failure : HookFailure) : Moment := failed (.hookFailed failure)

/-- A handler is called and ends in some way. -/
def ofHandler (index : Nat) (s : Step) (pattern : Text) : Outcome StepFailure Unit → List Moment
  | .ok () => [called s]
  | .error reason => [called s, failed (.handlerFailed index s pattern reason)]
  | .panic p => [called s, failed (.handlerFailed index s pattern (.panicked p))]

end Moment

/-- What there is to tell of a step. -/
def StepRun.log : StepRun σ → List Moment
  | missing index s => [.failed (.stepNotFound index s)]
  | wrapped index s pattern v => v.log .step .ofHook (Moment.ofHandler index s pattern)

/-- What there is to tell of the steps of one block. -/
def stepsLog (runs : List (StepRun σ)) : List Moment := runs.flatMap StepRun.log

def backgroundLog : Option (Visit σ (List (StepRun σ))) → List Moment
  | none => []
  | some v => v.log .background .ofHook stepsLog

def BodyRun.log (body : BodyRun σ) : List Moment :=
  backgroundLog body.background ++ stepsLog body.steps

def exampleLog (v : Visit σ (BodyRun σ)) : List Moment := v.log .exampleRun .ofHook BodyRun.log

def Failed (log : List Moment) : Prop := ∃ f, Moment.failed f ∈ log

/-- The steps of the background that comes before the steps of an example. -/
def ExampleCase.backgroundSteps (e : ExampleCase) : List Step :=
  match e.feature.background with
  | none => []
  | some b => b.steps

section Happens

variable (r : Registry σ) (outline : Option Record)

/-- The step is run between two states. Its handler is that of the definition that it matches, and
its visit is an orderly one of the hooks of steps. -/
inductive StepRun.Happens : Nat → Step → StepRun σ → σ → σ → Prop
  | missing {index : Nat} {s : Step} {w : σ} {e : UndefinedSentence} :
    r.matchStep s = .error e → Happens index s (.missing index s) w w
  | wrapped {index : Nat} {s : Step} {w w' : σ} {m : StepMatch σ}
    {v : Visit σ (Outcome StepFailure Unit)} :
    r.matchStep s = .ok m → v.Orderly (r.bracket .step) →
      v.Happens (.step s)
        (fun o w₁ w₂ ↦ m.definition.handler ⟨s, m.arguments, outline⟩ w₁ = (o, w₂)) w w' →
      Happens index s (.wrapped index s m.definition.pattern.text v) w w'

/-- Steps are run one after the other, up to the first of which there is a failure to tell. -/
inductive StepsHappen : Nat → List Step → List (StepRun σ) → σ → σ → Prop
  | nil {index : Nat} {w : σ} : StepsHappen index [] [] w w
  | failed {index : Nat} {s : Step} {ss : List Step} {run : StepRun σ} {w w' : σ} :
    run.Happens r outline index s w w' → Failed run.log → StepsHappen index (s :: ss) [run] w w'
  | cons {index : Nat} {s : Step} {ss : List Step} {run : StepRun σ} {runs : List (StepRun σ)}
    {w w' w'' : σ} :
    run.Happens r outline index s w w' → ¬Failed run.log →
      StepsHappen (index + 1) ss runs w' w'' → StepsHappen index (s :: ss) (run :: runs) w w''

variable (e : ExampleCase)

/-- The background is run in an orderly visit of its hooks, if there is one. -/
inductive BackgroundHappens : Option (Visit σ (List (StepRun σ))) → σ → σ → Prop
  | absent {w : σ} : e.feature.background = none → BackgroundHappens none w w
  | present {b : Background} {v : Visit σ (List (StepRun σ))} {w w' : σ} :
    e.feature.background = some b → v.Orderly (r.bracket .background) →
      v.Happens (.background b) (StepsHappen r e.outline 0 b.steps) w w' →
      BackgroundHappens (some v) w w'

/-- The background is run and, if there is no failure to tell of it, the steps of the example. -/
inductive BodyRun.Happens : BodyRun σ → σ → σ → Prop
  | failed {background : Option (Visit σ (List (StepRun σ)))} {w w' : σ} :
    BackgroundHappens r e background w w' → Failed (backgroundLog background) →
      Happens ⟨background, []⟩ w w'
  | completed {background : Option (Visit σ (List (StepRun σ)))} {runs : List (StepRun σ)}
    {w w' w'' : σ} :
    BackgroundHappens r e background w w' → ¬Failed (backgroundLog background) →
      StepsHappen r e.outline 0 e.steps runs w' w'' → Happens ⟨background, runs⟩ w w''

end Happens

/-- What succeeded ends with the first of the failures that follow it. -/
def Outcome.orFirst {φ : Type} (outcome : Outcome φ Unit) (fs : List φ) : Outcome φ Unit :=
  match outcome with
  | .ok () => endOf fs
  | ended => ended

/-- Handlers were called for steps from the front, all of them unless something failed, and never
after a failure; the first failure is what the outcome reports. -/
def Tells (steps : List Step) (log : List Moment) (outcome : Outcome ExampleFailure Unit) : Prop :=
  ∃ (called : List Step) (failures : List ExampleFailure),
    log = called.map .called ++ failures.map .failed ∧ called <+: steps ∧
    (failures = [] → called = steps) ∧ outcome = endOf failures

namespace Tells

variable {steps more : List Step} {log log' : List Moment} {f : ExampleFailure}
  {outcome : Outcome ExampleFailure Unit}

theorem nil : Tells [] [] (.ok ()) := ⟨[], [], rfl, List.prefix_rfl, fun _ ↦ rfl, rfl⟩

/-- What succeeded can be gone on with. -/
theorem append (h : Tells steps log (.ok ())) (h' : Tells more log' outcome) :
    Tells (steps ++ more) (log ++ log') outcome := by
  obtain ⟨called, failures, rfl, -, hall, hend⟩ := h
  obtain ⟨called', failures', rfl, hfront, hall', rfl⟩ := h'
  cases failures with
  | cons f fs => cases hend
  | nil =>
    obtain rfl := hall rfl
    refine ⟨called ++ called', failures', by simp, ?_, fun h ↦ by rw [hall' h], rfl⟩
    exact (List.prefix_append_right_inj called).2 hfront

/-- What failed is not gone on with. -/
theorem stop (h : Tells steps log (.error f)) (more : List Step) :
    Tells (steps ++ more) log (.error f) := by
  obtain ⟨called, failures, rfl, hfront, -, hend⟩ := h
  refine ⟨called, failures, rfl, hfront.trans (List.prefix_append steps more), ?_, hend⟩
  rintro rfl
  cases hend

theorem failed_iff (h : Tells steps log outcome) : Failed log ↔ ∃ f, outcome = .error f := by
  obtain ⟨called, failures, rfl, -, -, rfl⟩ := h
  cases failures with
  | nil => simp [Failed, endOf]
  | cons f fs => simp [Failed, endOf]

theorem not_panic {p : Payload} : ¬Tells steps log (.panic p) := by
  rintro ⟨called, failures, -, -, -, hend⟩
  cases failures <;> cases hend

/-- A failure before anything was called is the first there is to tell of. -/
theorem of_failures (steps : List Step) (f : ExampleFailure) (fs : List ExampleFailure) :
    Tells steps ((f :: fs).map .failed) (.error f) :=
  ⟨[], f :: fs, rfl, List.nil_prefix, fun h ↦ absurd h (List.cons_ne_nil _ _), rfl⟩

/-- Failures on the way out come after what was told already. -/
theorem append_failures (h : Tells steps log outcome) (fs : List ExampleFailure) :
    Tells steps (log ++ fs.map .failed) (outcome.orFirst fs) := by
  obtain ⟨called, failures, rfl, hfront, hall, rfl⟩ := h
  refine ⟨called, failures ++ fs, by simp, hfront, ?_, ?_⟩
  · intro hnil
    exact hall (List.append_eq_nil_iff.1 hnil).1
  · cases failures <;> rfl

end Tells

/-- The visit with another account of the call that was run. -/
def Visit.withInside {ι ι' : Type} (v : Visit σ ι) (inside : Option ι') : Visit σ ι' :=
  ⟨v.befores, v.entries, inside, v.exits, v.afters⟩

theorem Visit.Orderly.withInside {ι ι' : Type} {b : Bracket σ} {v : Visit σ ι} (h : v.Orderly b)
    {inside : Option ι'} (hsome : inside.isSome = v.inside.isSome) :
    (v.withInside inside).Orderly b :=
  ⟨h.befores, h.entries, h.no_entries, (Bool.coe_iff_coe.2 hsome).trans h.inside, h.exits, h.afters⟩

/-- What comes of a call that is run within hooks, if it has an account of itself: it is refused
with the first failure on the way in, or it is admitted, and then the way out has its say. -/
inductive Visit.Admits {α : Type} (scope : Scope) (accounts : ι → Outcome ExampleFailure α → Prop)
    (v : Visit σ ι) : Outcome ExampleFailure α → Prop
  | refused {f : HookFailure} {fs : List HookFailure} :
    v.wayIn scope = f :: fs → v.inside = none → Admits scope accounts v (.error (.hookFailed f))
  | admitted {i : ι} {o : Outcome ExampleFailure α} :
    v.wayIn scope = [] → v.inside = some i → accounts i o →
      Admits scope accounts v
        (((o.mapError .call).settle (endOf (v.wayOut scope))).mapError .ofBracketError)

theorem map_ofHook (fs : List HookFailure) :
    fs.map Moment.ofHook = (fs.map ExampleFailure.hookFailed).map Moment.failed := by
  rw [List.map_map]
  rfl

section Tells

variable {v : Visit σ ι} {scope : Scope} {steps : List Step} {log : ι → List Moment}

/-- Of a visit whose way in fails there are only failures to tell. -/
theorem Visit.tells_of_wayIn {f : HookFailure} {fs : List HookFailure}
    (hin : v.wayIn scope = f :: fs) (hinside : v.inside = none) :
    Tells steps (v.log scope .ofHook log) (.error (.hookFailed f)) := by
  have hlog : v.log scope .ofHook log =
      ((f :: fs ++ v.wayOut scope).map ExampleFailure.hookFailed).map Moment.failed := by
    rw [Visit.log, hin, hinside, ← map_ofHook, List.map_append]
    rfl
  rw [hlog]
  exact Tells.of_failures steps _ _

/-- What there is to tell of a call is told first, and then the failures on the way out. -/
theorem Visit.tells_of_inside {i : ι} {o : Outcome ExampleFailure Unit}
    (hin : v.wayIn scope = []) (hinside : v.inside = some i) (h : Tells steps (log i) o) :
    Tells steps (v.log scope .ofHook log)
      (((o.mapError .call).settle (endOf (v.wayOut scope))).mapError
        ExampleFailure.ofBracketError) := by
  have hlog : v.log scope .ofHook log =
      log i ++ ((v.wayOut scope).map ExampleFailure.hookFailed).map Moment.failed := by
    rw [Visit.log, hin, hinside, ← map_ofHook, List.map_nil, List.nil_append, Option.toList_some,
      List.flatMap_singleton]
  have hfirst : ((o.mapError .call).settle (endOf (v.wayOut scope))).mapError
      ExampleFailure.ofBracketError =
        o.orFirst ((v.wayOut scope).map ExampleFailure.hookFailed) := by
    cases o <;> cases v.wayOut scope <;> rfl
  rw [hlog, hfirst]
  exact h.append_failures _

end Tells

namespace Registry

variable {r : Registry σ}

/-- A call that has an account of itself is visited with that account inside. -/
theorem within_admits {α : Type} {scope : Scope} {target : HookSubject}
    (hreturns : (r.bracket scope).Returns target) {call : Call σ ExampleFailure α}
    {happens : ι → σ → σ → Prop} {accounts : ι → Outcome ExampleFailure α → Prop}
    (hcall : ∀ w, ∃ i o w', call w = (o, w') ∧ happens i w w' ∧ accounts i o) (w : σ) :
    ∃ (v : Visit σ ι) (outcome : Outcome ExampleFailure α) (w' : σ),
      r.within scope target call w = (outcome, w') ∧ v.Orderly (r.bracket scope) ∧
      v.Happens target happens w w' ∧ v.Admits scope accounts outcome := by
  obtain ⟨v, outcome, w', heq, ⟨w₁, w₂, w₃, w₄, hbefores, hentries, hcalled, hexits, hafters⟩,
    horderly, hreports⟩ := Bracket.around_visits hreturns rfl call w
  have hwithin : r.within scope target call w =
      (outcome.mapError ExampleFailure.ofBracketError, w') := by
    rw [within, Call.mapError, wrap, heq]
  replace hreports : v.Reports scope outcome := hreports
  have hin := horderly.isSome_inside_iff scope
  cases hinside : v.inside with
  | none =>
    rw [hinside] at hin hcalled
    obtain ⟨f, fs, hf⟩ := List.exists_cons_of_ne_nil (mt hin.2 Bool.false_ne_true)
    have houtcome : outcome = .error (.hook f) := by
      rw [hreports.unique (Bracket.reports_of_wayIn hf hinside)]
      cases v.wayOut scope <;> rfl
    refine ⟨v.withInside none, _, w', hwithin, horderly.withInside (by rw [hinside]; rfl),
      ⟨w₁, w₂, w₃, w₄, hbefores, hentries, hcalled, hexits, hafters⟩, ?_⟩
    rw [houtcome]
    exact .refused hf rfl
  | some o =>
    rw [hinside] at hin hcalled
    have hnone : v.wayIn scope = [] := hin.1 rfl
    obtain ⟨i, o', w₃', hcall', hhappens, haccounts⟩ := hcall w₂
    obtain ⟨rfl, rfl⟩ := Prod.mk.inj (hcalled.symm.trans hcall')
    refine ⟨v.withInside (some i), _, w', hwithin, horderly.withInside (by rw [hinside]; rfl),
      ⟨w₁, w₂, w₃, w₄, hbefores, hentries, hhappens, hexits, hafters⟩, ?_⟩
    rw [hreports.unique (Bracket.reports_of_inside hnone hinside)]
    exact .admitted hnone rfl haccounts

/-- A call that tells of its steps does so within hooks as well. -/
theorem within_visits {scope : Scope} {target : HookSubject}
    (hreturns : (r.bracket scope).Returns target) {steps : List Step}
    {call : Call σ ExampleFailure Unit} {happens : ι → σ → σ → Prop} {log : ι → List Moment}
    (hcall : ∀ w, ∃ i o w', call w = (o, w') ∧ happens i w w' ∧ Tells steps (log i) o) (w : σ) :
    ∃ (v : Visit σ ι) (o : Outcome ExampleFailure Unit) (w' : σ),
      r.within scope target call w = (o, w') ∧ v.Orderly (r.bracket scope) ∧
      v.Happens target happens w w' ∧ Tells steps (v.log scope .ofHook log) o := by
  obtain ⟨v, outcome, w', heq, horderly, hhappens, hadmits⟩ := within_admits hreturns hcall w
  refine ⟨v, outcome, w', heq, horderly, hhappens, ?_⟩
  cases hadmits with
  | refused hin hinside => exact Visit.tells_of_wayIn hin hinside
  | admitted hin hinside htells => exact Visit.tells_of_inside hin hinside htells

/-! ## Steps, backgrounds and examples -/

/-- A handler that breaks off has failed, as far as the example goes. -/
theorem runHandler_tells (m : StepMatch σ) (outline : Option Record) (index : Nat) (s : Step)
    (pattern : Text) (w : σ) :
    ∃ o o' w', (runHandler m s outline).mapError (.handlerFailed index s pattern) w = (o', w') ∧
      m.definition.handler ⟨s, m.arguments, outline⟩ w = (o, w') ∧
      Tells [s] (Moment.ofHandler index s pattern o) o' := by
  have htells (failures : List ExampleFailure) :
      Tells [s] (.called s :: failures.map .failed) (endOf failures) :=
    ⟨[s], failures, rfl, List.prefix_rfl, fun _ ↦ rfl, rfl⟩
  rcases hrun : m.definition.handler ⟨s, m.arguments, outline⟩ w with ⟨o, w'⟩
  cases o with
  | ok _ =>
    refine ⟨_, .ok (), w', ?_, rfl, htells []⟩
    rw [Call.mapError, runHandler, Call.catching, hrun]
    rfl
  | error reason =>
    refine ⟨_, .error (.handlerFailed index s pattern reason), w', ?_, rfl,
      htells [.handlerFailed index s pattern reason]⟩
    rw [Call.mapError, runHandler, Call.catching, hrun]
    rfl
  | panic p =>
    refine ⟨_, .error (.handlerFailed index s pattern (.panicked p)), w', ?_, rfl,
      htells [.handlerFailed index s pattern (.panicked p)]⟩
    rw [Call.mapError, runHandler, Call.catching, hrun]
    rfl

section Returns

variable (hstep : ∀ target, (r.bracket .step).Returns target)

include hstep

theorem runStep_tells (outline : Option Record) (index : Nat) (s : Step) (w : σ) :
    ∃ (run : StepRun σ) (o : Outcome ExampleFailure Unit) (w' : σ),
      r.runStep outline index s w = (o, w') ∧ run.Happens r outline index s w w' ∧
      Tells [s] run.log o := by
  cases hmatch : r.matchStep s with
  | error e =>
    refine ⟨.missing index s, .error (.stepNotFound index s), w, ?_, .missing hmatch, ?_⟩
    · rw [runStep, hmatch]
      rfl
    · exact Tells.of_failures [s] (.stepNotFound index s) []
  | ok m =>
    have hcall := runHandler_tells m outline index s m.definition.pattern.text
    obtain ⟨v, o, w', heq, horderly, hhappens, htells⟩ :=
      within_visits (hstep (.step s)) (fun w ↦ by
        obtain ⟨o, o', w', hrun, hhandler, htells⟩ := hcall w
        exact ⟨o, o', w', hrun, hhandler, htells⟩) w
    refine ⟨.wrapped index s m.definition.pattern.text v, o, w', ?_,
      .wrapped hmatch horderly hhappens, htells⟩
    rw [runStep, hmatch]
    exact heq

/-- The first step that fails is the last that is run. -/
theorem runSteps_tells (outline : Option Record) (index : Nat) (steps : List Step) (w : σ) :
    ∃ (runs : List (StepRun σ)) (o : Outcome ExampleFailure Unit) (w' : σ),
      r.runSteps outline index steps w = (o, w') ∧
      StepsHappen r outline index steps runs w w' ∧ Tells steps (stepsLog runs) o := by
  induction steps generalizing index w with
  | nil => exact ⟨[], .ok (), w, rfl, .nil, .nil⟩
  | cons s steps ih =>
    obtain ⟨run, o, w₁, hrun, hhappens, htells⟩ := runStep_tells hstep outline index s w
    cases o with
    | ok _ =>
      obtain ⟨runs, o', w₂, hruns, hhappens', htells'⟩ := ih (index + 1) w₁
      refine ⟨run :: runs, o', w₂, ?_, .cons hhappens ?_ hhappens', ?_⟩
      · rw [runSteps, Call.andThen_of_ok hrun]
        exact hruns
      · rw [htells.failed_iff]
        rintro ⟨f, hf⟩
        cases hf
      · exact htells.append htells'
    | error f =>
      refine ⟨[run], .error f, w₁, ?_, .failed hhappens (htells.failed_iff.2 ⟨f, rfl⟩), ?_⟩
      · rw [runSteps, Call.andThen_of_error hrun]
      · rw [stepsLog, List.flatMap_singleton]
        exact htells.stop steps
    | panic p => exact absurd htells Tells.not_panic

theorem runBackground_tells (hbackground : ∀ target, (r.bracket .background).Returns target)
    (e : ExampleCase) (w : σ) :
    ∃ (background : Option (Visit σ (List (StepRun σ)))) (o : Outcome ExampleFailure Unit) (w' : σ),
      r.runBackground e w = (o, w') ∧ BackgroundHappens r e background w w' ∧
      Tells e.backgroundSteps (backgroundLog background) o := by
  cases hb : e.feature.background with
  | none =>
    refine ⟨none, .ok (), w, ?_, .absent hb, ?_⟩
    · rw [runBackground, hb]
      rfl
    · rw [ExampleCase.backgroundSteps, hb]
      exact Tells.nil
  | some b =>
    obtain ⟨v, o, w', heq, horderly, hhappens, htells⟩ :=
      within_visits (hbackground (.background b)) (runSteps_tells hstep e.outline 0 b.steps) w
    refine ⟨some v, o, w', ?_, .present hb horderly hhappens, ?_⟩
    · rw [runBackground, hb]
      exact heq
    · rw [ExampleCase.backgroundSteps, hb]
      exact htells

/-- The steps of an example are not begun if its background failed. -/
theorem body_tells (hbackground : ∀ target, (r.bracket .background).Returns target)
    (e : ExampleCase) (w : σ) :
    ∃ (body : BodyRun σ) (o : Outcome ExampleFailure Unit) (w' : σ),
      (r.runBackground e).andThen (fun _ ↦ r.runSteps e.outline 0 e.steps) w = (o, w') ∧
      body.Happens r e w w' ∧ Tells (e.backgroundSteps ++ e.steps) body.log o := by
  obtain ⟨background, o, w₁, hrun, hhappens, htells⟩ := runBackground_tells hstep hbackground e w
  cases o with
  | ok _ =>
    obtain ⟨runs, o', w₂, hruns, hhappens', htells'⟩ := runSteps_tells hstep e.outline 0 e.steps w₁
    refine ⟨⟨background, runs⟩, o', w₂, ?_, .completed hhappens ?_ hhappens', ?_⟩
    · rw [Call.andThen_of_ok hrun]
      exact hruns
    · rw [htells.failed_iff]
      rintro ⟨f, hf⟩
      cases hf
    · exact htells.append htells'
  | error f =>
    refine ⟨⟨background, []⟩, .error f, w₁, Call.andThen_of_error hrun,
      .failed hhappens (htells.failed_iff.2 ⟨f, rfl⟩), ?_⟩
    have hlog : BodyRun.log ⟨background, []⟩ = backgroundLog background := List.append_nil _
    rw [hlog]
    exact htells.stop e.steps
  | panic p => exact absurd htells Tells.not_panic

end Returns

/-- An example happens as a trace in which each wrap that is begun is left in order, with every
after hook of its scope run and every guard released once. Handlers are called for steps from the front, before
anything fails; the example succeeds exactly if all are called and nothing fails, and else ends with
what failed first. -/
theorem runExample_reports_earliest_failure (r : Registry σ) (e : ExampleCase)
    (hstep : ∀ target, (r.bracket .step).Returns target)
    (hbackground : ∀ target, (r.bracket .background).Returns target)
    (hexample : ∀ target, (r.bracket .exampleRun).Returns target) (w : σ) :
    (∀ scope, (r.bracket scope).TakenFrom r.hooks scope) ∧
      ∃ (v : Visit σ (BodyRun σ)) (called : List Step) (failures : List ExampleFailure)
        (outcome : Outcome ExampleFailure Unit) (w' : σ),
        r.runExample e w = (outcome, w') ∧
        v.Orderly (r.bracket .exampleRun) ∧
        v.Happens (.exampleRun e.feature e.scenario e.outline) (BodyRun.Happens r e) w w' ∧
        exampleLog v = called.map .called ++ failures.map .failed ∧
        called <+: e.backgroundSteps ++ e.steps ∧
        (outcome = .ok () ↔ called = e.backgroundSteps ++ e.steps ∧ failures = []) ∧
        outcome = endOf failures := by
  obtain ⟨v, o, w', heq, horderly, hhappens, called, failures, hlog, hfront, hall, hend⟩ :=
    within_visits (hexample (.exampleRun e.feature e.scenario e.outline))
      (body_tells hstep hbackground e) w
  refine ⟨r.bracket_takenFrom, v, called, failures, o, w', heq, horderly, hhappens, hlog, hfront,
    ?_, hend⟩
  rw [hend]
  cases failures with
  | nil => exact iff_of_true rfl ⟨hall rfl, rfl⟩
  | cons f fs => exact iff_of_false (by rintro ⟨⟩) (by rintro ⟨-, ⟨⟩⟩)

/-- Definitions have no part in hooks. -/
theorem bracket_withSteps (r : Registry σ) (steps : List (StepDefinition σ)) (scope : Scope) :
    Registry.bracket { r with steps := steps } scope = r.bracket scope := rfl

/-- The registry of `noting` with one definition, whose handler breaks off. -/
def breaking : Registry (List Text) :=
  { noting with
    steps := (StepPattern.ofText "milk".toList).toOption.toList.map fun pattern ↦
      ⟨⟨1⟩, pattern, fun _ w ↦ (.panic (.integer 7), "handler".toList :: w), none⟩ }

theorem breaking_returns (scope : Scope) (target : HookSubject) :
    (breaking.bracket scope).Returns target := by
  rw [breaking, bracket_withSteps]
  exact noting_returns scope target

/-- An example with a step in its background and one of its own. -/
def someExample : ExampleCase :=
  let place : Location := ⟨none, 1, 1⟩
  let span : Span := .between 0 0
  let step (text : Text) : Step :=
    ⟨"Given ".toList, .context, .context, text, text, none, none, none, place, span⟩
  let background : Background := ⟨[], [], none, [step "milk".toList], place, span⟩
  let scenario : Scenario :=
    ⟨[], .scenario, [], [], none, [step "tea".toList], [], [], 0, place, span⟩
  let language : Language := ⟨"en".toList, "English", "English", [], []⟩
  ⟨⟨[], [], [], none, some background, [scenario], language, [], [], place, span⟩, scenario,
    none, scenario.steps⟩

/-- A handler that breaks off in the background, within hooks that fail on the way out. -/
theorem runExample_handler_that_breaks_off :
    (∀ scope target, (breaking.bracket scope).Returns target) ∧
      (∀ scope, (breaking.bracket scope).TakenFrom breaking.hooks scope) ∧
      ∃ (v : Visit (List Text) (BodyRun (List Text))) (called : List Step)
        (failures : List ExampleFailure) (outcome : Outcome ExampleFailure Unit) (w' : List Text),
        breaking.runExample someExample [] = (outcome, w') ∧
        v.Orderly (breaking.bracket .exampleRun) ∧
        v.Happens (.exampleRun someExample.feature someExample.scenario someExample.outline)
          (BodyRun.Happens breaking someExample) [] w' ∧
        exampleLog v = called.map .called ++ failures.map .failed ∧
        called <+: someExample.backgroundSteps ++ someExample.steps ∧
        (outcome = .ok () ↔
          called = someExample.backgroundSteps ++ someExample.steps ∧ failures = []) ∧
        outcome = endOf failures :=
  ⟨breaking_returns, runExample_reports_earliest_failure breaking someExample
    (breaking_returns .step) (breaking_returns .background) (breaking_returns .exampleRun) []⟩

end Registry

end Gherkin
