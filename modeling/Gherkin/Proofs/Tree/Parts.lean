import Gherkin.Tree.Parser

/-!
# The parser part by part

Steps, blocks of examples and scenarios are each taken one after the other until the next token does
not begin another. Written as a sequence of readings, such a loop takes one item and then goes on
with what the item left.

Main statements: one for each loop (`takeSteps_cons`, `takeExamples_eq`, `takeScenarios_eq`) and one
for a block of examples (`takeExamplesBlock_eq`).
-/

namespace Gherkin.Tree

variable (eof : Location)

theorem takeSteps_cons (t : Token) (ts : List Token) :
    takeSteps eof (t :: ts) =
      match StepNode.ofToken? t with
      | none => .ok ([], t :: ts)
      | some step => do
        let (argument, after) ← takeArgument eof ts
        let (steps, last) ← takeSteps eof after
        return ({ step with argument } :: steps, last) := by
  rw [takeSteps]
  cases StepNode.ofToken? t with
  | none => rfl
  | some step =>
    dsimp only
    cases takeArgument eof ts with
    | error e => rfl
    | ok taken =>
      obtain ⟨argument, after⟩ := taken
      simp only [bind, Except.bind]
      cases takeSteps eof after <;> rfl

theorem takeExamplesBlock_eq (ts : List Token) :
    takeExamplesBlock eof ts = do
      let (header, ts) ← takeHeader eof (takeTags ts).1 (takeTags ts).2
      let (description, ts) := takeRun TextLine.ofToken? ts
      let (rows, ts) := takeRun Row.ofToken? ts
      return (⟨header, description, rows⟩, ts) := by
  rw [takeExamplesBlock]
  dsimp only
  cases takeHeader eof (takeTags ts).1 (takeTags ts).2 <;> rfl

theorem takeExamples_eq (ts : List Token) :
    takeExamples eof ts =
      if blockAfterTags? ts = some .examples then do
        let (block, after) ← takeExamplesBlock eof ts
        let (blocks, last) ← takeExamples eof after
        return (block :: blocks, last)
      else .ok ([], ts) := by
  rw [takeExamples]
  congr 1
  cases takeExamplesBlock eof ts with
  | error e => rfl
  | ok taken =>
    obtain ⟨block, after⟩ := taken
    simp only [bind, Except.bind]
    cases takeExamples eof after <;> rfl

theorem takeScenarios_eq (ts : List Token) :
    takeScenarios eof ts =
      if startsScenario ts then do
        let (block, after) ← takeBlock eof ts
        let (blocks, last) ← takeScenarios eof after
        return (block :: blocks, last)
      else .ok ([], ts) := by
  rw [takeScenarios]
  congr 1
  cases takeBlock eof ts with
  | error e => rfl
  | ok taken =>
    obtain ⟨block, after⟩ := taken
    simp only [bind, Except.bind]
    cases takeScenarios eof after <;> rfl

end Gherkin.Tree
