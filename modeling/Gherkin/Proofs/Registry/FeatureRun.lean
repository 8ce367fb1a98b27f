import Gherkin.Proofs.Hooks.Steady
import Gherkin.Proofs.Registry.ExampleTrace
import Gherkin.Proofs.Registry.Listing

/-!
# What happens in a feature

The trace of a feature is a visit of its hooks with the traces of its examples inside, one for each
row of each scenario. No example is left out or kept from being run by another one, and if callbacks
depend on their arguments only, each ends as it would have ended alone.

Main statements: how an example ends does not depend on the state (`Registry.Steady.runExample`),
the examples are those that are written in the feature (`Feature.examples_eq_written`), and a
feature covers all of them (`runFeature_covers_written_examples`).
-/

namespace Gherkin

variable {σ : Type}

/-- The examples of a scenario: one for each of its rows, or its own steps if it has none. -/
def Scenario.writtenExamples (s : Scenario) : List Example :=
  if s.outlines = [] then [⟨none, s.steps⟩] else s.outlines.map s.resolved

/-- The examples of a feature in the order in which they are written. -/
def Feature.writtenExamples (f : Feature) : List ExampleCase :=
  f.scenarios.flatMap fun s ↦ s.writtenExamples.map fun e ↦ ⟨f, s, e.outline, e.steps⟩

/-- A walk through rows has those ahead of it that it has not passed. -/
theorem ExampleCursor.toList_of_outlines (c : ExampleCursor) (h : c.scenario.outlines ≠ []) :
    c.toList = (c.scenario.outlines.drop c.next).map c.scenario.resolved := by
  induction c using ExampleCursor.toList.induct with
  | case1 c hend =>
    have hnone : c.scenario.outlines[c.next]? = none := by
      simpa [advance, h] using hend
    rw [toList, hend, List.drop_eq_nil_of_le (List.getElem?_eq_none_iff.1 hnone), List.map_nil]
  | case2 c e c' hadvance ih =>
    obtain ⟨row, hrow, hmoved⟩ : ∃ row, c.scenario.outlines[c.next]? = some row ∧
        (c.scenario.resolved row, ExampleCursor.mk c.scenario (c.next + 1)) = (e, c') := by
      simpa [advance, h] using hadvance
    obtain ⟨rfl, rfl⟩ := Prod.mk.inj hmoved
    obtain ⟨hlt, rfl⟩ := List.getElem?_eq_some_iff.1 hrow
    rw [toList, hadvance, List.drop_eq_getElem_cons hlt, List.map_cons]
    exact congrArg _ (ih h)

theorem Scenario.resolvedExamples_eq_written (s : Scenario) :
    s.resolvedExamples = s.writtenExamples := by
  unfold resolvedExamples writtenExamples cursor
  split
  · next hnone =>
    have hfirst : ExampleCursor.advance ⟨s, 0⟩ = some (⟨none, s.steps⟩, ⟨s, 1⟩) := by
      simp [ExampleCursor.advance, hnone]
    have hlast : ExampleCursor.advance ⟨s, 1⟩ = none := by simp [ExampleCursor.advance, hnone]
    have hend : ExampleCursor.toList ⟨s, 1⟩ = [] := by rw [ExampleCursor.toList, hlast]
    rw [ExampleCursor.toList, hfirst]
    exact congrArg _ hend
  · next hsome =>
    rw [ExampleCursor.toList_of_outlines ⟨s, 0⟩ hsome, List.drop_zero]

theorem Feature.examples_eq_written (f : Feature) : f.examples = f.writtenExamples := by
  unfold examples writtenExamples
  simp only [Scenario.resolvedExamples_eq_written]

namespace Registry

/-- Neither handlers nor hooks depend on the state. -/
structure Steady (r : Registry σ) : Prop where
  handlers : ∀ d ∈ r.steps, ∀ input, (d.handler input).Steady
  hooks : ∀ scope target, (r.bracket scope).Steady target

variable {r : Registry σ}

theorem mem_steps_of_matchStep {s : Step} {m : StepMatch σ} (h : r.matchStep s = .ok m) :
    m.definition ∈ r.steps := by
  obtain ⟨before, after, hsteps, -, -⟩ := matchSentence_eq_ok_iff.1 (mapError_eq_ok_iff.1 h)
  rw [hsteps]
  simp

namespace Steady

variable (hr : r.Steady)

include hr

theorem within {α : Type} (scope : Scope) (target : HookSubject) {call : Call σ ExampleFailure α}
    (hcall : call.Steady) : (r.within scope target call).Steady :=
  .mapError (Bracket.steady_around (hr.hooks scope target) rfl hcall) _

theorem runStep (outline : Option Record) (index : Nat) (s : Step) :
    (r.runStep outline index s).Steady := by
  unfold Registry.runStep
  cases hmatch : r.matchStep s with
  | error e => exact .throw _
  | ok m =>
    have hhandler := hr.handlers m.definition (mem_steps_of_matchStep hmatch)
      ⟨s, m.arguments, outline⟩
    exact hr.within _ _ ((hhandler.catching _).mapError _)

theorem runSteps (outline : Option Record) (index : Nat) (steps : List Step) :
    (r.runSteps outline index steps).Steady := by
  induction steps generalizing index with
  | nil => exact .pure ()
  | cons s steps ih => exact (hr.runStep outline index s).andThen fun _ ↦ ih (index + 1)

theorem runBackground (e : ExampleCase) : (r.runBackground e).Steady := by
  unfold Registry.runBackground
  cases e.feature.background with
  | none => exact .pure ()
  | some b => exact hr.within _ _ (hr.runSteps e.outline 0 b.steps)

/-- How an example ends does not depend on what was run before it. -/
theorem runExample (e : ExampleCase) : (r.runExample e).Steady :=
  hr.within _ _ ((hr.runBackground e).andThen fun _ ↦ hr.runSteps e.outline 0 e.steps)

end Steady

end Registry

/-- An example as it was run among others, with its trace. -/
structure CaseRun (σ : Type) where
  ended : Registry.Ended
  visit : Visit σ (BodyRun σ)

namespace CaseRun

/-- The example is run between two states in an orderly visit of its hooks, and its end is what the
visit tells. -/
structure Happens (r : Registry σ) (run : CaseRun σ) (w w' : σ) : Prop where
  ran : r.runExample run.ended.1 w = (.ofExcept run.ended.2, w')
  orderly : run.visit.Orderly (r.bracket .exampleRun)
  happens : run.visit.Happens
    (.exampleRun run.ended.1.feature run.ended.1.scenario run.ended.1.outline)
    (BodyRun.Happens r run.ended.1) w w'
  tells : Tells (run.ended.1.backgroundSteps ++ run.ended.1.steps) (exampleLog run.visit)
    (.ofExcept run.ended.2)

/-- How an example ended is a value to what goes on after it. -/
theorem Happens.attempt {r : Registry σ} {run : CaseRun σ} {w w' : σ} (h : run.Happens r w w') :
    ((r.runExample run.ended.1).attempt : Call σ ExampleFailure _) w = (.ok run.ended.2, w') := by
  unfold Call.attempt
  rw [h.ran]
  cases run.ended.2 <;> rfl

end CaseRun

/-- The examples are run one after the other, whatever becomes of each of them. -/
inductive CasesHappen (r : Registry σ) : List ExampleCase → List (CaseRun σ) → σ → σ → Prop
  | nil {w : σ} : CasesHappen r [] [] w w
  | cons {es : List ExampleCase} {run : CaseRun σ} {runs : List (CaseRun σ)} {w w' w'' : σ} :
    run.Happens r w w' → CasesHappen r es runs w' w'' →
      CasesHappen r (run.ended.1 :: es) (run :: runs) w w''

def featureLog (v : Visit σ (List (CaseRun σ))) : List Moment :=
  v.log .feature .ofHook fun runs ↦ runs.flatMap fun run ↦ exampleLog run.visit

/-- There is one end for each example that is written, in order, and each is the one that the
example has when it is run alone, from whatever state. -/
structure Registry.Covers (r : Registry σ) (f : Feature) (ended : List Registry.Ended) : Prop where
  in_order : ended.map Prod.fst = f.writtenExamples
  alone : ∀ e ∈ ended, ∀ w, (r.runExample e.1 w).1 = .ofExcept e.2

namespace CasesHappen

variable {r : Registry σ} {es : List ExampleCase} {runs : List (CaseRun σ)} {w w' : σ}

/-- No example is left out, and none is run twice. -/
theorem map_ended_fst (h : CasesHappen r es runs w w') :
    (runs.map CaseRun.ended).map Prod.fst = es := by
  induction h with
  | nil => rfl
  | cons _ _ ih => rw [List.map_cons, List.map_cons, ih]

/-- What was run before has no part in how an example ends. -/
theorem alone (hr : r.Steady) (h : CasesHappen r es runs w w') :
    ∀ e ∈ runs.map CaseRun.ended, ∀ w₀, (r.runExample e.1 w₀).1 = .ofExcept e.2 := by
  induction h with
  | nil => exact fun _ hmem ↦ absurd hmem List.not_mem_nil
  | @cons es run runs w₁ w₂ w₃ hrun _ ih =>
    refine List.forall_mem_cons.2 ⟨fun w₀ ↦ ?_, ih⟩
    rw [hr.runExample run.ended.1 w₀ w₁, hrun.ran]

theorem covers {f : Feature} (hr : r.Steady) (h : CasesHappen r f.writtenExamples runs w w') :
    r.Covers f (runs.map CaseRun.ended) :=
  ⟨h.map_ended_fst, h.alone hr⟩

end CasesHappen

namespace Registry

variable {r : Registry σ}

section Returns

variable (hreturns : ∀ scope target, (r.bracket scope).Returns target)

include hreturns

/-- An example does not break off, even if a handler does. -/
theorem runExample_ran (e : ExampleCase) (w : σ) :
    ∃ (run : CaseRun σ) (w' : σ), run.ended.1 = e ∧ run.Happens r w w' := by
  obtain ⟨v, outcome, w', heq, horderly, hhappens, htells⟩ :=
    within_visits (hreturns .exampleRun (.exampleRun e.feature e.scenario e.outline))
      (body_tells (hreturns .step) (hreturns .background) e) w
  cases outcome with
  | ok _ => exact ⟨⟨(e, .ok ()), v⟩, w', rfl, heq, horderly, hhappens, htells⟩
  | error f => exact ⟨⟨(e, .error f), v⟩, w', rfl, heq, horderly, hhappens, htells⟩
  | panic p => exact absurd htells Tells.not_panic

/-- Every example is run, and none keeps those behind it from being run. -/
theorem runExamples_ran (es : List ExampleCase) (w : σ) :
    ∃ runs w', r.runExamples es w = (.ok (runs.map CaseRun.ended), w') ∧
      CasesHappen r es runs w w' := by
  induction es generalizing w with
  | nil => exact ⟨[], w, rfl, .nil⟩
  | cons e es ih =>
    obtain ⟨run, w₁, rfl, hrun⟩ := runExample_ran hreturns e w
    obtain ⟨runs, w₂, heq, hruns⟩ := ih w₁
    refine ⟨run :: runs, w₂, ?_, .cons hrun hruns⟩
    rw [runExamples, Call.andThen_of_ok hrun.attempt, Call.andThen_of_ok heq]
    rfl

end Returns

end Registry

/-! ## Features -/

/-- What the visit of a feature's hooks has to do with how the feature ends. -/
structure FeatureEnds (r : Registry σ) (f : Feature) (v : Visit σ (List (CaseRun σ)))
    (outcome : Outcome ExampleFailure (List Registry.Ended)) : Prop where
  /-- The feature returns if no hook and no guard of its own fails, and only then. -/
  returns_iff : (∃ ended, outcome = .ok ended) ↔ v.wayIn .feature = [] ∧ v.wayOut .feature = []
  /-- It returns how the examples that are written ended. -/
  covers : ∀ ended, outcome = .ok ended → r.Covers f ended
  /-- After a failure on the way in no example is run and no handler is called. -/
  silent : v.wayIn .feature ≠ [] → v.inside = none ∧ ∀ s, Moment.called s ∉ featureLog v
  /-- Without one every example is run. -/
  complete : v.wayIn .feature = [] →
    ∃ runs, v.inside = some runs ∧ r.Covers f (runs.map CaseRun.ended)
  /-- The first failure of a hook or a guard of the feature is what it ends with. -/
  reported : ∀ failure rest, v.wayIn .feature ++ v.wayOut .feature = failure :: rest →
    failure.scope = .feature ∧ outcome = .error (.hookFailed failure)

namespace FeatureEnds

variable {r : Registry σ} {f : Feature} {v : Visit σ (List (CaseRun σ))}

theorem of_wayIn {failure : HookFailure} {rest : List HookFailure}
    (hin : v.wayIn .feature = failure :: rest) (hinside : v.inside = none) :
    FeatureEnds r f v (.error (.hookFailed failure)) where
  returns_iff := by simp [hin]
  covers _ h := by cases h
  silent _ := by
    refine ⟨hinside, fun s hmem ↦ ?_⟩
    unfold featureLog Visit.log at hmem
    rw [hinside] at hmem
    simp [Moment.ofHook] at hmem
  complete h := by
    rw [hin] at h
    cases h
  reported first more h := by
    have hscope := Visit.scope_of_mem (h ▸ List.mem_cons_self)
    rw [hin, List.cons_append] at h
    obtain ⟨rfl, -⟩ := List.cons.inj h
    exact ⟨hscope, rfl⟩

theorem of_inside {runs : List (CaseRun σ)} (hin : v.wayIn .feature = [])
    (hinside : v.inside = some runs) (hcovers : r.Covers f (runs.map CaseRun.ended)) :
    FeatureEnds r f v (((Outcome.ok (runs.map CaseRun.ended)).settle
      (endOf (v.wayOut .feature))).mapError .ofBracketError) where
  returns_iff := by
    rw [and_iff_right hin]
    cases v.wayOut .feature with
    | nil => exact iff_of_true ⟨_, rfl⟩ rfl
    | cons failure rest => exact iff_of_false (by rintro ⟨_, ⟨⟩⟩) (List.cons_ne_nil _ _)
  covers ended h := by
    generalize v.wayOut .feature = failures at h
    cases failures with
    | nil =>
      cases h
      exact hcovers
    | cons failure rest => cases h
  silent h := absurd hin h
  complete _ := ⟨runs, hinside, hcovers⟩
  reported first more h := by
    have hscope := Visit.scope_of_mem (h ▸ List.mem_cons_self)
    rw [hin, List.nil_append] at h
    rw [h]
    exact ⟨hscope, rfl⟩

end FeatureEnds

namespace Registry

/-- A feature covers every example that is written in it once and in order, and each of them ends as
it would have ended alone. It returns exactly if no hook and no guard of its own fails. If the way
in fails, no handler is called; if only the way out does, every example was run; and either way the
first failure is reported, which is one of the hooks of the feature. -/
theorem runFeature_covers_written_examples (r : Registry σ) (f : Feature) (hsteady : r.Steady)
    (hreturns : ∀ scope target, (r.bracket scope).Returns target) (w : σ) :
    (∀ scope, (r.bracket scope).TakenFrom r.hooks scope) ∧
      ∃ (v : Visit σ (List (CaseRun σ))) (outcome : Outcome ExampleFailure (List Ended)) (w' : σ),
        r.runFeature f w = (outcome, w') ∧ v.Orderly (r.bracket .feature) ∧
        v.Happens (.feature f) (CasesHappen r f.writtenExamples) w w' ∧
        FeatureEnds r f v outcome := by
  -- the examples give account of themselves by their traces
  have hexamples (w : σ) : ∃ runs outcome w', r.runExamples f.examples w = (outcome, w') ∧
      CasesHappen r f.writtenExamples runs w w' ∧
      outcome = .ok (runs.map CaseRun.ended) ∧ r.Covers f (runs.map CaseRun.ended) := by
    obtain ⟨runs, w', heq, hhappen⟩ := runExamples_ran hreturns f.examples w
    rw [f.examples_eq_written] at hhappen
    exact ⟨runs, _, w', heq, hhappen, rfl, hhappen.covers hsteady⟩
  obtain ⟨v, outcome, w', heq, horderly, hhappens, hadmits⟩ :=
    within_admits (hreturns .feature (.feature f)) hexamples w
  refine ⟨r.bracket_takenFrom, v, outcome, w', heq, horderly, hhappens, ?_⟩
  cases hadmits with
  | refused hin hinside => exact .of_wayIn hin hinside
  | admitted hin hinside haccounts =>
    obtain ⟨rfl, hcovers⟩ := haccounts
    exact .of_inside hin hinside hcovers

theorem noting_steady (scope : Scope) (target : HookSubject) :
    (noting.bracket scope).Steady target := by
  refine ⟨?befores, ?arounds, ?afters⟩
  case befores =>
    intro h hmem
    obtain rfl := List.mem_singleton.1 (List.mem_mergeSort.1 hmem)
    exact fun _ _ ↦ rfl
  case arounds =>
    intro h hmem w w'
    obtain rfl := List.mem_singleton.1 (List.mem_mergeSort.1 hmem)
    exact .ok fun _ _ ↦ rfl
  case afters =>
    intro h hmem
    obtain rfl := List.mem_singleton.1 (List.mem_mergeSort.1 hmem)
    exact fun _ _ ↦ rfl

theorem breaking_steady : breaking.Steady where
  handlers d hd input := by
    obtain ⟨pattern, -, rfl⟩ := List.mem_map.1 hd
    exact fun _ _ ↦ rfl
  hooks scope target := by
    rw [breaking, bracket_withSteps]
    exact noting_steady scope target

/-- The feature of `someExample` with another scenario, which has two rows. -/
def someOutline : Feature :=
  let cup (size : Text) : Record := { entries := [("cup".toList, size)] }
  let outline : Scenario :=
    { someExample.scenario with outlines := [cup "small".toList, cup "large".toList] }
  { someExample.feature with scenarios := [someExample.scenario, outline] }

/-- Three examples in which the handler of the background breaks off, within hooks of the feature
that fail on the way out. -/
theorem runFeature_handlers_that_break_off :
    breaking.Steady ∧ (∀ scope target, (breaking.bracket scope).Returns target) ∧
      someOutline.writtenExamples.length = 3 ∧
      (∀ scope, (breaking.bracket scope).TakenFrom breaking.hooks scope) ∧
      ∃ (v : Visit (List Text) (List (CaseRun (List Text))))
        (outcome : Outcome ExampleFailure (List Ended)) (w' : List Text),
        breaking.runFeature someOutline [] = (outcome, w') ∧
        v.Orderly (breaking.bracket .feature) ∧
        v.Happens (.feature someOutline) (CasesHappen breaking someOutline.writtenExamples) [] w' ∧
        FeatureEnds breaking someOutline v outcome :=
  ⟨breaking_steady, breaking_returns, rfl,
    runFeature_covers_written_examples breaking someOutline breaking_steady breaking_returns []⟩

end Registry

end Gherkin
