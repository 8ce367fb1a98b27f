import Gherkin.Feature.Basic
import Gherkin.Tree.Basic

/-!
# From structure to feature

The rules that the structure of a document alone does not enforce: names that must not be empty,
features that need scenarios, examples that need a table, and tables whose rows are of one width.
Each step learns its owner and its phase here.
-/

namespace Gherkin

/-- The first fault of a list of readings, or all that was read. -/
def collect {ε α : Type} : List (Except ε α) → Except ε (List α)
  | [] => .ok []
  | .error e :: _ => .error e
  | .ok a :: rest => (collect rest).map (a :: ·)

/-- A table of rows that are all as wide as the first. -/
def Table.ofRows (rows : List Tree.Row) : Except SyntaxError Table :=
  match rows with
  | [] => .error ⟨⟨none, 1, 1⟩, .emptyTable, []⟩
  | first :: _ =>
    let width := first.cells.length
    match rows.find? fun r ↦ r.cells.length ≠ width with
    | some r => .error (r.refuse (.raggedRow width r.cells.length))
    | none =>
      let span := rows.foldl (fun s r ↦ s.join r.span) first.span
      .ok ⟨rows.map (·.cells), first.location, span⟩

/-- The description in a run of free lines. -/
def Description.ofLines (lines : List Tree.TextLine) : Option Description :=
  match lines with
  | [] => none
  | first :: _ =>
    let span := lines.foldl (fun s l ↦ s.join l.span) first.span
    some ⟨lines.map (·.text), first.location, span⟩

def DocString.ofNode (s : Tree.StringNode) : DocString :=
  ⟨s.content, s.contentType, s.delimiter, s.location, s.span⟩

/-- A step with the given owner and phase. Its span covers its argument. -/
def Step.ofNode (owner : Option BlockId) (phase : StepKind) (n : Tree.StepNode) :
    Except SyntaxError Step := do
  let bare : Step :=
    { literal := n.literal, kind := n.kind, phase, text := n.text
      sentence := sentenceOfLine (n.literal ++ n.text)
      table := none, docString := none, owner, location := n.location, span := n.span }
  match n.argument with
  | none => return bare
  | some (.table rows) =>
    let table ← Table.ofRows rows
    return { bare with table := some table, span := n.span.join table.span }
  | some (.string s) =>
    return { bare with docString := some (.ofNode s), span := n.span.join s.span }

def Step.ofNodes (owner : Option BlockId) (ns : List Tree.StepNode) :
    Except SyntaxError (List Step) :=
  let phases := StepKind.phases none (ns.map (·.kind))
  collect ((phases.zip ns).map fun (phase, n) ↦ Step.ofNode owner phase n)

/-- The span from a header to the end of the last step below it. -/
def spanThrough (header : Span) (steps : List Step) : Span :=
  (steps.getLast?.map fun last ↦ header.join last.span).getD header

def Background.ofNode (n : Tree.BlockNode) : Except SyntaxError Background := do
  let steps ← Step.ofNodes (some .background) n.steps
  return {
    keyword := n.header.keyword, name := n.header.name
    description := Description.ofLines n.description, steps
    location := n.header.location, span := spanThrough n.header.span steps }

def Examples.ofNode (n : Tree.ExamplesNode) : Except SyntaxError Examples := do
  if n.rows.isEmpty then throw (n.header.refuse .examplesWithoutTable)
  let table ← Table.ofRows n.rows
  return {
    keyword := n.header.keyword, name := n.header.name, tags := n.header.tags
    description := Description.ofLines n.description, table
    location := n.header.location, span := n.header.span.join table.span }

def Scenario.ofNode (index : Nat) (n : Tree.BlockNode) : Except SyntaxError Scenario := do
  if n.header.name.isEmpty then throw (n.header.refuse .unnamedScenario)
  let steps ← Step.ofNodes (some (.scenario index)) n.steps
  let examples ← collect (n.examples.map Examples.ofNode)
  return {
    keyword := n.header.keyword, kind := n.header.kind, name := n.header.name
    tags := n.header.tags, description := Description.ofLines n.description, steps, examples
    outlines := examples.flatMap fun e ↦ e.table.records, index
    location := n.header.location
    span := examples.foldl (fun s e ↦ s.join e.span) (spanThrough n.header.span steps) }

/-- What a document consists of apart from its own text: the structure, the language it is written
in, the source, its path, and the warnings. -/
structure ParsedText where
  tree : Tree
  language : Language
  source : Text
  path : Option Text
  warnings : List Warning
  deriving DecidableEq, Repr

/-- The feature of a document that was read as one. -/
def ParsedText.toFeature (p : ParsedText) : Except SyntaxError Feature := do
  match p.tree with
  | .snippet _ => throw ⟨⟨p.path, 1, 1⟩, .readAsSteps, []⟩
  | .document n =>
    if n.header.name.isEmpty then throw (n.header.refuse .unnamedFeature)
    if n.scenarios.isEmpty then throw (n.header.refuse .noScenario)
    let background ← n.background.mapM Background.ofNode
    let scenarios ← collect (n.scenarios.mapIdx Scenario.ofNode)
    return {
      keyword := n.header.keyword, name := n.header.name, tags := n.header.tags
      description := Description.ofLines n.description, background, scenarios
      language := p.language, source := p.source, warnings := p.warnings
      location := n.header.location
      span := (scenarios.getLast?.map fun s ↦ n.header.span.join s.span).getD n.header.span }

/-- The bare steps of a document that was read as such. -/
def ParsedText.toSteps (p : ParsedText) : Except SyntaxError (List Step) :=
  match p.tree with
  | .snippet ns => Step.ofNodes none ns
  | .document n => .error (n.header.refuse .readAsFeature)

end Gherkin
