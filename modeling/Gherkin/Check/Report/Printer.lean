import Gherkin.Check.Report.Basic
import Gherkin.Text.Json

/-!
# Written reports

Reports are written as text, a line for each file with a summary at the end, or as one JSON
document. In a text any path can be shown, but in a JSON document a path has to be a text: at one
that is not the document ends before its end.
-/

namespace Gherkin.Check

/-- The form in which reports are written. -/
inductive ReportFormat where
  | text
  | json
  deriving DecidableEq, Repr

def failedCount (reports : List FileReport) : Nat := (reports.filter fun r ↦ !r.isOk).length

def lineOf (t : Text) : Text := t ++ ['\n']

def plural (count : Nat) (noun : Text) : Text :=
  Text.ofNat count ++ ' ' :: noun ++ if count = 1 then [] else ['s']

/-- Where a notice belongs: a column is shown only behind a line. -/
def Notice.position (path : Text) (d : Notice) : Text :=
  match d.line, d.column with
  | some line, some column => path ++ ':' :: Text.ofNat line ++ ':' :: Text.ofNat column
  | some line, none => path ++ ':' :: Text.ofNat line
  | none, _ => path

def Notice.written (path kind : Text) (d : Notice) : Text :=
  lineOf (d.position path ++ ": " ++ kind ++ ": " ++ d.message) ++
    match d.source with
    | some source => lineOf ("    " ++ source)
    | none => []

def ExampleSummary.written (s : ScenarioSummary) (e : ExampleSummary) : Text :=
  let row : Text := match e.row with
    | some cells => " [" ++ Text.join ", " (cells.map fun c ↦ c.1 ++ " = " ++ c.2) ++ "]"
    | none => []
  lineOf ("  " ++ s.keyword ++ ": " ++ s.name ++ row) ++
    e.steps.flatMap fun step ↦ lineOf ("    " ++ step)

def FeatureSummary.written (path : Text) (f : FeatureSummary) : Text :=
  let examples := f.scenarios.foldl (fun n s ↦ n + s.exampleCount) 0
  lineOf (path ++ ": ok: " ++ f.name ++ " (" ++ plural f.scenarios.length "scenario" ++ ", " ++
      plural examples "example" ++ ")") ++
    f.scenarios.flatMap fun s ↦ s.examples.flatMap (ExampleSummary.written s)

/-- The lines of a report. An error is all that is written of a file. -/
def FileReport.written (r : FileReport) : Text :=
  match r.error with
  | some error => error.written r.path.display "error"
  | none =>
    (match r.feature with
      | some feature => feature.written r.path.display
      | none => []) ++
      r.warnings.flatMap (Notice.written r.path.display "warning")

def writtenText (reports : List FileReport) : Text :=
  reports.flatMap FileReport.written ++
    lineOf (plural reports.length "file" ++ " checked, " ++ Text.ofNat (failedCount reports) ++
      " failed")

/-- A member of an object that is left out if it has no value. -/
def optionalMember {α : Type} (name : Text) (f : α → Json) : Option α → List (Text × Json)
  | some a => [(name, f a)]
  | none => []

/-- A member of an object that is left out if it has no items. -/
def listMember {α : Type} (name : Text) (f : α → Json) (items : List α) : List (Text × Json) :=
  if items.isEmpty then [] else [(name, .array (items.map f))]

def Notice.toJson (d : Notice) : Json :=
  .object ([("message".toList, .text d.message)] ++ optionalMember "line" .number d.line ++
    optionalMember "column" .number d.column ++ optionalMember "source" .text d.source)

def ExampleSummary.toJson (e : ExampleSummary) : Json :=
  .object (optionalMember "row" (fun cells ↦ .object (cells.map fun c ↦ (c.1, .text c.2))) e.row ++
    [("steps".toList, .array (e.steps.map .text))])

def ScenarioSummary.toJson (s : ScenarioSummary) : Json :=
  .object ([("keyword".toList, .text s.keyword), ("name".toList, .text s.name),
    ("line".toList, .number s.line), ("tags".toList, .array (s.tags.map .text)),
    ("example_count".toList, .number s.exampleCount)] ++
    listMember "examples" ExampleSummary.toJson s.examples)

def FeatureSummary.toJson (f : FeatureSummary) : Json :=
  .object [("name", .text f.name), ("language", .text f.language),
    ("background", .boolean f.background),
    ("scenarios", .array (f.scenarios.map ScenarioSummary.toJson))]

/-- The JSON form of a report whose path is a text. -/
def FileReport.toJson (r : FileReport) : Json :=
  .object ([("path".toList, .text r.path.display)] ++
    optionalMember "feature" FeatureSummary.toJson r.feature ++
    optionalMember "error" Notice.toJson r.error ++
    listMember "warnings" Notice.toJson r.warnings)

/-- The JSON form of reports whose paths are texts. -/
def reportsToJson (reports : List FileReport) : Json :=
  .object [("files", .array (reports.map FileReport.toJson)),
    ("checked", .number reports.length), ("failed", .number (failedCount reports))]

/-- The beginning of the document of reports and a further one, up to the path of that. -/
def jsonUpToPath (reports : List FileReport) : Text :=
  ['\x7b'] ++ Json.newLine 1 ++ Json.quote "files" ++ [':', ' ', '['] ++
    (reports.flatMap fun r ↦ Json.newLine 2 ++ r.toJson.render 2 ++ [',']) ++
    Json.newLine 2 ++ ['\x7b'] ++ Json.newLine 3 ++ Json.quote "path" ++ [':', ' ']

/-- Why reports are not written to the end. -/
inductive WriteError where
  /-- The path of a file is no text. -/
  | pathNotUtf8
  deriving DecidableEq, Repr

def WriteError.message : WriteError → Text
  | pathNotUtf8 =>
    "failed to serialize check report to JSON: path contains invalid UTF-8 characters"

/-- What comes of writing reports: the text that is written, and why it ends before its end if it
does. -/
structure Written where
  text : Text
  error : Option WriteError
  deriving DecidableEq, Repr

/-- The JSON form of reports as far as it can be written. -/
def writtenJson (reports : List FileReport) : Written :=
  match reports.dropWhile (·.path.text?.isSome) with
  | [] => ⟨lineOf (reportsToJson reports).display, none⟩
  | _ :: _ => ⟨jsonUpToPath (reports.takeWhile (·.path.text?.isSome)), some .pathNotUtf8⟩

def ReportFormat.write (format : ReportFormat) (reports : List FileReport) : Written :=
  match format with
  | .text => ⟨writtenText reports, none⟩
  | .json => writtenJson reports

end Gherkin.Check
