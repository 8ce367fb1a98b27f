import Gherkin.Check.FoundFile
import Gherkin.Feature.Example

/-!
# Reports

What a check says about one file: the shape of the feature in it, or why there is none.
-/

namespace Gherkin.Check

/-- A message with the place and the text that it is about, as far as they are known. -/
structure Notice where
  message : Text
  line : Option Nat
  column : Option Nat
  source : Option Text
  deriving DecidableEq, Repr

/-- One example: the row it comes from and the sentences of its steps. -/
structure ExampleSummary where
  row : Option (List (Text × Text))
  steps : List Text
  deriving DecidableEq, Repr

/-- The shape of a scenario. The examples themselves are listed only where they are asked for. -/
structure ScenarioSummary where
  keyword : Text
  name : Text
  line : Nat
  tags : List Text
  exampleCount : Nat
  examples : List ExampleSummary
  deriving DecidableEq, Repr

/-- The shape of a feature. -/
structure FeatureSummary where
  name : Text
  language : Text
  background : Bool
  scenarios : List ScenarioSummary
  deriving DecidableEq, Repr

/-- The report on a file. -/
structure FileReport where
  path : OsText
  feature : Option FeatureSummary
  error : Option Notice
  warnings : List Notice
  deriving DecidableEq, Repr

def ExampleSummary.ofExample (e : Example) : ExampleSummary :=
  ⟨e.outline.map (·.entries), e.steps.map (·.sentence)⟩

def ScenarioSummary.ofScenario (expand : Bool) (f : Feature) (s : Scenario) : ScenarioSummary :=
  { keyword := s.keyword
    name := s.name
    line := s.location.line
    tags := f.tagsOf s
    exampleCount := s.exampleCount
    examples := if expand then s.resolvedExamples.map .ofExample else [] }

def FeatureSummary.ofFeature (expand : Bool) (f : Feature) : FeatureSummary :=
  ⟨f.name, f.language.code, f.background.isSome,
    f.scenarios.map (ScenarioSummary.ofScenario expand f)⟩

namespace Notice

def ofWarning (w : Warning) : Notice :=
  ⟨w.message, some w.location.line, some w.location.column, some w.line⟩

/-- What is said of a failure. Only a fault of the text has a place, and the line at it is shown
unless it is blank. -/
def ofParseError : ParseError → Notice
  | .refused e =>
    let shown := Text.trim e.line
    ⟨e.fault.message, some e.location.line, some e.location.column,
      if shown.isEmpty then none else some shown⟩
  | e => ⟨e.display, none, none, none⟩

end Notice

namespace FileReport

/-- The report on a file with a feature or a failure in it. -/
def ofResult (expand : Bool) (path : OsText) : Except ParseError Feature → FileReport
  | .ok f => ⟨path, some (.ofFeature expand f), none, f.warnings.map .ofWarning⟩
  | .error e => ⟨path, none, some (.ofParseError e), []⟩

def ofFile (options : ParseOptions) (expand : Bool) (f : FoundFile) : FileReport :=
  ofResult expand f.path (parseFeatureFile options f.path.display f.read)

/-- Whether the file holds a feature. -/
def isOk (r : FileReport) : Bool := r.error.isNone

end FileReport

/-- The reports on all files that a list of paths names. -/
def reportsOn (find : OsText → Except ReadFailure FileTree) (config : Settings) (expand : Bool)
    (paths : List OsText) : Except CheckError (List FileReport) := do
  let files ← findFiles find paths
  return files.map (FileReport.ofFile config.parseOptions expand)

end Gherkin.Check
