import Gherkin.Text.Basic

/-!
# Kinds of steps

Every language has its own words for steps; all of them stand for one of six kinds. Three kinds open
a phase of a scenario, the other three continue the phase that is open.

Main statement: `resolve` answers with the open phase and leaves it open for the steps that follow
(`resolve_snd_eq_some`).
-/

namespace Gherkin

/-- What a step keyword stands for. -/
inductive StepKind where
  /-- A precondition: opens the first phase. -/
  | context
  /-- Something that is done: opens the second phase. -/
  | action
  /-- An expected result: opens the third phase. -/
  | outcome
  /-- One more step of the open phase. -/
  | and
  /-- One more step of the open phase, by way of contrast. -/
  | but
  /-- One more step of the open phase, as an item of a list. -/
  | bullet
  deriving DecidableEq, Repr

namespace StepKind

def name : StepKind → String
  | context => "Given"
  | action => "When"
  | outcome => "Then"
  | and => "And"
  | but => "But"
  | bullet => "*"

def all : List StepKind := [context, action, outcome, and, but, bullet]

def ofName? (s : String) : Option StepKind := all.find? fun k ↦ k.name == s

/-- Whether the kind continues the open phase instead of opening one. -/
def continuesPhase : StepKind → Bool
  | and | but | bullet => true
  | context | action | outcome => false

/-- The phase of a step of this kind where `opened` is the open phase, and the phase that is open
afterwards. A conjunction before any phase counts as a precondition and opens nothing. -/
def resolve (k : StepKind) (opened : Option StepKind) : StepKind × Option StepKind :=
  if k.continuesPhase then (opened.getD context, opened) else (k, some k)

/-- The phases of a row of steps that starts with no phase open. -/
def phases (opened : Option StepKind) : List StepKind → List StepKind
  | [] => []
  | k :: ks => (k.resolve opened).1 :: phases (k.resolve opened).2 ks

theorem ofName?_name (k : StepKind) : ofName? k.name = some k := by cases k <;> decide

theorem resolve_snd_eq_some {k p : StepKind} {opened : Option StepKind}
    (h : (k.resolve opened).2 = some p) : (k.resolve opened).1 = p := by
  cases k <;> simp_all [resolve, continuesPhase]

end StepKind

end Gherkin
