import Gherkin.Feature.Example
import Gherkin.Registry.Basic

/-!
# Running examples

A feature is run example by example. An example runs the steps of the background and then its own,
each within the hooks of its scope, and stops at the first failure. The failure of one example does
not keep the others from being run.
-/

namespace Gherkin

/-- One example of a scenario of a feature, with its steps resolved. -/
structure ExampleCase where
  feature : Feature
  scenario : Scenario
  outline : Option Record
  steps : List Step
  deriving DecidableEq, Repr

/-- All examples of a feature, scenario by scenario and row by row. -/
def Feature.examples (f : Feature) : List ExampleCase :=
  f.scenarios.flatMap fun s ↦ s.resolvedExamples.map fun e ↦ ⟨f, s, e.outline, e.steps⟩

/-- Why an example failed. A step is told by its index in its block. -/
inductive ExampleFailure where
  /-- No definition matches a step. -/
  | stepNotFound (index : Nat) (step : Step)
  /-- The handler of a step failed. -/
  | handlerFailed (index : Nat) (step : Step) (pattern : Text) (reason : StepFailure)
  /-- A hook failed. -/
  | hookFailed (failure : HookFailure)
  deriving DecidableEq, Repr

namespace ExampleFailure

/-- The step that a failure is about. -/
def step? : ExampleFailure → Option Step
  | stepNotFound _ s => some s
  | handlerFailed _ s _ _ => some s
  | hookFailed _ => none

/-- Whether a failure is a missing definition. -/
def isUndefined : ExampleFailure → Bool
  | stepNotFound .. => true
  | _ => false

def message (locales : List Locale) : ExampleFailure → Text
  | stepNotFound _ s =>
    MessageId.stepNotFound.render locales
      [("location", s.location.display), ("sentence", s.sentence)]
  | handlerFailed _ s pattern reason =>
    MessageId.handlerFailed.render locales
      [("location", s.location.display), ("sentence", s.sentence), ("pattern", pattern),
        ("message", reason.display locales)]
  | hookFailed failure => failure.display locales

/-- The failure of a call that was run within hooks and whose own failure is of this kind. -/
def ofBracketError : BracketError ExampleFailure → ExampleFailure
  | .hook failure => hookFailed failure
  | .call reason => reason

end ExampleFailure

namespace Registry

variable {σ : Type}

/-- Runs a call within the hooks of a scope, as part of an example. -/
def within {α : Type} (r : Registry σ) (scope : Scope) (target : HookSubject)
    (call : Call σ ExampleFailure α) : Call σ ExampleFailure α :=
  (r.wrap scope target call).mapError .ofBracketError

/-- Calls the handler of a matched step. A handler that breaks off has failed. -/
def runHandler (m : StepMatch σ) (s : Step) (outline : Option Record) : Call σ StepFailure Unit :=
  (m.definition.handler ⟨s, m.arguments, outline⟩).catching .panicked

/-- Runs one step. A step that no definition matches is not wrapped in hooks. -/
def runStep (r : Registry σ) (outline : Option Record) (index : Nat) (s : Step) :
    Call σ ExampleFailure Unit :=
  match r.matchStep s with
  | .error _ => .throw (.stepNotFound index s)
  | .ok m =>
    r.within .step (.step s)
      ((runHandler m s outline).mapError (.handlerFailed index s m.definition.pattern.text))

/-- Runs steps in order, counted from an index, up to the first that fails. -/
def runSteps (r : Registry σ) (outline : Option Record) :
    Nat → List Step → Call σ ExampleFailure Unit
  | _, [] => .pure ()
  | index, s :: rest =>
    (r.runStep outline index s).andThen fun _ ↦ r.runSteps outline (index + 1) rest

/-- Runs the steps of the background, if there is one. -/
def runBackground (r : Registry σ) (e : ExampleCase) : Call σ ExampleFailure Unit :=
  match e.feature.background with
  | none => .pure ()
  | some b => r.within .background (.background b) (r.runSteps e.outline 0 b.steps)

def runExample (r : Registry σ) (e : ExampleCase) : Call σ ExampleFailure Unit :=
  r.within .exampleRun (.exampleRun e.feature e.scenario e.outline)
    ((r.runBackground e).andThen fun _ ↦ r.runSteps e.outline 0 e.steps)

/-- An example with how it ended. -/
abbrev Ended : Type := ExampleCase × Except ExampleFailure Unit

/-- Runs examples in order, whether or not those before succeeded. -/
def runExamples (r : Registry σ) : List ExampleCase → Call σ ExampleFailure (List Ended)
  | [] => .pure []
  | e :: rest =>
    (r.runExample e).attempt.andThen fun result ↦
      (r.runExamples rest).andThen fun results ↦ .pure ((e, result) :: results)

/-- Runs all examples of a feature within its hooks. -/
def runFeature (r : Registry σ) (f : Feature) : Call σ ExampleFailure (List Ended) :=
  r.within .feature (.feature f) (r.runExamples f.examples)

end Registry

end Gherkin
