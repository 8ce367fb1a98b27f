import Gherkin.Feature.Basic
import Gherkin.Feature.Placeholder

/-!
# Examples

Each row of the examples of a scenario gives values to the placeholders in the scenario's steps, and
the steps with the values filled in are one example. A scenario without rows is its own only
example.

Main statement: each move of a walk through the examples brings its end nearer by one
(`remaining_advance`).
-/

namespace Gherkin

def Table.resolve (row : Record) (t : Table) : Table :=
  { t with rows := t.rows.map fun cells ↦ cells.map (substitute row) }

def DocString.resolve (row : Record) (s : DocString) : DocString :=
  { s with content := substitute row s.content }

/-- A step with the values of a row in its text, its sentence, and what it is given. Positions stay
those of the template. -/
def Step.resolve (row : Record) (s : Step) : Step :=
  { s with
    text := substitute row s.text
    sentence := substitute row s.sentence
    table := s.table.map (Table.resolve row)
    docString := s.docString.map (DocString.resolve row) }

/-- The steps that one row gives, with the row; a scenario without rows gives its own steps with
none. -/
structure Example where
  outline : Option Record
  steps : List Step
  deriving DecidableEq, Repr

/-- The example that a row gives. -/
def Scenario.resolved (s : Scenario) (row : Record) : Example :=
  ⟨some row, s.steps.map (Step.resolve row)⟩

def Scenario.exampleCount (s : Scenario) : Nat := max s.outlines.length 1

/-- A walk through the examples of a scenario that has passed the first `next` of them. -/
structure ExampleCursor where
  scenario : Scenario
  next : Nat
  deriving DecidableEq, Repr

namespace ExampleCursor

def remaining (c : ExampleCursor) : Nat := c.scenario.exampleCount - c.next

/-- The next example and the walk after it; at the end of the walk there is none. -/
def advance (c : ExampleCursor) : Option (Example × ExampleCursor) :=
  if c.scenario.outlines.isEmpty then
    if c.next = 0 then some (⟨none, c.scenario.steps⟩, ⟨c.scenario, 1⟩) else none
  else
    c.scenario.outlines[c.next]?.map fun row ↦
      (c.scenario.resolved row, ⟨c.scenario, c.next + 1⟩)

theorem remaining_advance {c c' : ExampleCursor} {e : Example}
    (h : c.advance = some (e, c')) : c'.remaining + 1 = c.remaining := by
  unfold advance at h
  unfold remaining Scenario.exampleCount
  split at h
  · next hn =>
    split at h
    · next h0 => cases h; simp_all
    · cases h
  · obtain ⟨row, hrow, hc⟩ := Option.map_eq_some_iff.1 h
    cases hc
    have := (List.getElem?_eq_some_iff.1 hrow).1
    simp only; omega

def toList (c : ExampleCursor) : List Example :=
  match _h : c.advance with
  | none => []
  | some (e, c') => e :: toList c'
termination_by c.remaining
decreasing_by have := remaining_advance _h; omega

end ExampleCursor

/-- The walk through the examples of a scenario from the first one on. -/
def Scenario.cursor (s : Scenario) : ExampleCursor := ⟨s, 0⟩

def Scenario.resolvedExamples (s : Scenario) : List Example := s.cursor.toList

end Gherkin
