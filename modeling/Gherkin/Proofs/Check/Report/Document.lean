import Gherkin.Check.Report.Printer
import Gherkin.Proofs.Check.OsText
import Gherkin.Proofs.Text.Json

/-!
# Reports read back

A JSON document of reports tells all that is in them: reading its members, of which some are left
out where there is nothing to tell, gives back the reports and the two counts. Since a written
document is the written form of one value only, so does reading the text. Where the path of a file
is no text, what is written is the beginning of a document and is not read at all.

Main statements: `Document.reads_iff`, `Document.not_reads`.
-/

namespace Gherkin

namespace Json

variable {α : Type}

def text? : Json → Option Text
  | text t => some t
  | _ => none

def number? : Json → Option Nat
  | number n => some n
  | _ => none

def boolean? : Json → Option Bool
  | boolean b => some b
  | _ => none

/-- The items of an array, each read. -/
def items? (read : Json → Option α) : Json → Option (List α)
  | array items => items.mapM read
  | _ => none

/-- The member of an object, read. -/
def member? (name : Text) (read : Json → Option α) : Json → Option α
  | object members => (members.lookup name).bind read
  | _ => none

/-- The member of an object, read if it is there. -/
def optionalMember? (name : Text) (read : Json → Option α) : Json → Option (Option α)
  | object members =>
    match members.lookup name with
    | some j => (read j).map some
    | none => some none
  | _ => none

/-- The items of a member of an object; none if the member is not there. -/
def listMember? (name : Text) (read : Json → Option α) (j : Json) : Option (List α) :=
  (optionalMember? name (items? read) j).map (·.getD [])

/-- The names and texts of an object whose members are texts. -/
def cells? : Json → Option (List (Text × Text))
  | object members => members.mapM fun m ↦ m.2.text?.map (m.1, ·)
  | _ => none

theorem listMember?_eq {name : Text} {read : Json → Option α} {j : Json} {as : List α}
    (h : optionalMember? name (items? read) j = some (some as)) :
    listMember? name read j = some as := by
  rw [listMember?, h]
  rfl

theorem mapM_map {β : Type} {read : β → Option α} {write : α → β} {as : List α}
    (h : ∀ a ∈ as, read (write a) = some a) : (as.map write).mapM read = some as := by
  induction as with
  | nil => rfl
  | cons a as ih =>
    obtain ⟨ha, has⟩ := List.forall_mem_cons.1 h
    rw [List.map_cons, List.mapM_cons, ha, ih has]
    rfl

theorem items?_map {read : Json → Option α} {write : α → Json} {as : List α}
    (h : ∀ a ∈ as, read (write a) = some a) : items? read (.array (as.map write)) = some as :=
  mapM_map h

theorem texts?_map (ts : List Text) : items? text? (.array (ts.map text)) = some ts :=
  items?_map fun _ _ ↦ rfl

theorem cells?_map (cells : List (Text × Text)) :
    cells? (.object (cells.map fun c ↦ (c.1, .text c.2))) = some cells := by
  apply mapM_map
  exact fun _ _ ↦ rfl

end Json

namespace Check

def Notice.ofJson? (j : Json) : Option Notice := do
  let message ← j.member? "message" Json.text?
  let line ← j.optionalMember? "line" Json.number?
  let column ← j.optionalMember? "column" Json.number?
  let source ← j.optionalMember? "source" Json.text?
  return ⟨message, line, column, source⟩

theorem Notice.ofJson?_toJson (d : Notice) : ofJson? d.toJson = some d := by
  obtain ⟨message, line, column, source⟩ := d
  cases line <;> cases column <;> cases source <;> rfl

def ExampleSummary.ofJson? (j : Json) : Option ExampleSummary := do
  let row ← j.optionalMember? "row" Json.cells?
  let steps ← j.member? "steps" (Json.items? Json.text?)
  return ⟨row, steps⟩

theorem ExampleSummary.ofJson?_toJson (e : ExampleSummary) : ofJson? e.toJson = some e := by
  obtain ⟨row, steps⟩ := e
  have hrow : (toJson ⟨row, steps⟩).optionalMember? "row" Json.cells? = some row := by
    cases row with
    | none => rfl
    | some cells => exact congrArg (Option.map some) (Json.cells?_map cells)
  have hsteps : (toJson ⟨row, steps⟩).member? "steps" (Json.items? Json.text?) = some steps := by
    cases row <;> exact Json.texts?_map steps
  rw [ofJson?, hrow, hsteps]
  rfl

def ScenarioSummary.ofJson? (j : Json) : Option ScenarioSummary := do
  let keyword ← j.member? "keyword" Json.text?
  let name ← j.member? "name" Json.text?
  let line ← j.member? "line" Json.number?
  let tags ← j.member? "tags" (Json.items? Json.text?)
  let exampleCount ← j.member? "example_count" Json.number?
  let examples ← j.listMember? "examples" ExampleSummary.ofJson?
  return { keyword, name, line, tags, exampleCount, examples }

theorem ScenarioSummary.ofJson?_toJson (s : ScenarioSummary) : ofJson? s.toJson = some s := by
  obtain ⟨keyword, name, line, tags, exampleCount, examples⟩ := s
  have htags : (toJson ⟨keyword, name, line, tags, exampleCount, examples⟩).member? "tags"
      (Json.items? Json.text?) = some tags := Json.texts?_map tags
  have hexamples : (toJson ⟨keyword, name, line, tags, exampleCount, examples⟩).listMember?
      "examples" ExampleSummary.ofJson? = some examples := by
    cases examples with
    | nil => rfl
    | cons e examples =>
      have hitems : Json.items? ExampleSummary.ofJson?
          (.array ((e :: examples).map ExampleSummary.toJson)) = some (e :: examples) :=
        Json.items?_map fun e _ ↦ e.ofJson?_toJson
      exact Json.listMember?_eq (congrArg (Option.map some) hitems)
  rw [ofJson?, htags, hexamples]
  rfl

def FeatureSummary.ofJson? (j : Json) : Option FeatureSummary := do
  let name ← j.member? "name" Json.text?
  let language ← j.member? "language" Json.text?
  let background ← j.member? "background" Json.boolean?
  let scenarios ← j.member? "scenarios" (Json.items? ScenarioSummary.ofJson?)
  return ⟨name, language, background, scenarios⟩

theorem FeatureSummary.ofJson?_toJson (f : FeatureSummary) : ofJson? f.toJson = some f := by
  have hscenarios : f.toJson.member? "scenarios" (Json.items? ScenarioSummary.ofJson?) =
      some f.scenarios := Json.items?_map fun s _ ↦ s.ofJson?_toJson
  rw [ofJson?, hscenarios]
  rfl

/-- The report that a value tells. Its path is a text. -/
def FileReport.ofJson? (j : Json) : Option FileReport := do
  let path ← j.member? "path" Json.text?
  let feature ← j.optionalMember? "feature" FeatureSummary.ofJson?
  let error ← j.optionalMember? "error" Notice.ofJson?
  let warnings ← j.listMember? "warnings" Notice.ofJson?
  return ⟨.ofText path, feature, error, warnings⟩

theorem FileReport.ofJson?_toJson {r : FileReport} (h : r.path.IsText) :
    ofJson? r.toJson = some r := by
  obtain ⟨path, feature, error, warnings⟩ := r
  obtain ⟨t, ht⟩ : ∃ t : Text, path = .ofText t := h
  have hpath : (toJson ⟨path, feature, error, warnings⟩).member? "path" Json.text? = some t := by
    rw [ht]
    exact congrArg some (OsText.display_ofText t)
  have hfeature : (toJson ⟨path, feature, error, warnings⟩).optionalMember? "feature"
      FeatureSummary.ofJson? = some feature := by
    cases feature with
    | none => cases error <;> cases warnings <;> rfl
    | some f => exact congrArg (Option.map some) (FeatureSummary.ofJson?_toJson f)
  have herror : (toJson ⟨path, feature, error, warnings⟩).optionalMember? "error"
      Notice.ofJson? = some error := by
    cases error with
    | none => cases feature <;> cases warnings <;> rfl
    | some d => cases feature <;> exact congrArg (Option.map some) (Notice.ofJson?_toJson d)
  have hwarnings : (toJson ⟨path, feature, error, warnings⟩).listMember? "warnings"
      Notice.ofJson? = some warnings := by
    cases warnings with
    | nil => cases feature <;> cases error <;> rfl
    | cons d warnings =>
      have hitems : Json.items? Notice.ofJson? (.array ((d :: warnings).map Notice.toJson)) =
          some (d :: warnings) := Json.items?_map fun d _ ↦ d.ofJson?_toJson
      cases feature <;> cases error <;>
        exact Json.listMember?_eq (congrArg (Option.map some) hitems)
  rw [ofJson?, hpath, hfeature, herror, hwarnings, ht]
  rfl

/-- What a document of reports tells: the reports, and how many files were checked and how many of
them failed. -/
structure Document where
  files : List FileReport
  checked : Nat
  failed : Nat
  deriving DecidableEq, Repr

namespace Document

def ofReports (reports : List FileReport) : Document :=
  ⟨reports, reports.length, failedCount reports⟩

def ofJson? (j : Json) : Option Document := do
  let files ← j.member? "files" (Json.items? FileReport.ofJson?)
  let checked ← j.member? "checked" Json.number?
  let failed ← j.member? "failed" Json.number?
  return ⟨files, checked, failed⟩

theorem ofJson?_reportsToJson {reports : List FileReport} (h : ∀ r ∈ reports, r.path.IsText) :
    ofJson? (reportsToJson reports) = some (ofReports reports) := by
  have hfiles : (reportsToJson reports).member? "files" (Json.items? FileReport.ofJson?) =
      some reports := Json.items?_map fun r hr ↦ FileReport.ofJson?_toJson (h r hr)
  rw [ofJson?, hfiles]
  rfl

/-- The text is a line with a written value that tells the document. -/
def Reads (t : Text) (d : Document) : Prop :=
  ∃ j : Json, t = j.display ++ ['\n'] ∧ ofJson? j = some d

end Document

theorem writtenJson_of_isText {reports : List FileReport} (h : ∀ r ∈ reports, r.path.IsText) :
    writtenJson reports = ⟨lineOf (reportsToJson reports).display, none⟩ := by
  have hall : ∀ r ∈ reports, r.path.text?.isSome := fun r hr ↦ OsText.isText_iff.1 (h r hr)
  have hnone : reports.dropWhile (·.path.text?.isSome) = [] := by
    rw [← List.append_nil reports, List.dropWhile_append_of_pos hall]
    rfl
  rw [writtenJson, hnone]

theorem writtenJson_append {before after : List FileReport} {r : FileReport}
    (hbefore : ∀ r ∈ before, r.path.IsText) (hr : ¬ r.path.IsText) :
    writtenJson (before ++ r :: after) = ⟨jsonUpToPath before, some .pathNotUtf8⟩ := by
  have hbefore : ∀ r ∈ before, r.path.text?.isSome := fun r hr ↦ OsText.isText_iff.1 (hbefore r hr)
  have hr : r.path.text?.isSome = false := by simpa [OsText.isText_iff] using hr
  rw [writtenJson, List.dropWhile_append_of_pos hbefore, List.takeWhile_append_of_pos hbefore]
  simp [hr]

/-- A document of reports begins with the first of them and goes on to the path of the next. -/
theorem jsonUpToPath_append_prefix (before after : List FileReport) (r : FileReport) :
    jsonUpToPath before ++ Json.quote r.path.display <+:
      (reportsToJson (before ++ r :: after)).display := by
  obtain ⟨_, hreport⟩ : ∃ more, r.toJson.render 2 = _ ++ more :=
    Json.exists_render_object_eq 2 "path" (.text r.path.display) _
  obtain ⟨_, harray⟩ : ∃ more,
      (Json.array ((before ++ r :: after).map FileReport.toJson)).render 1 = _ ++ more := by
    rw [List.map_append, List.map_cons]
    exact Json.exists_render_array_eq 1 _ _ _
  obtain ⟨_, hdocument⟩ : ∃ more, (reportsToJson (before ++ r :: after)).display = _ ++ more :=
    Json.exists_render_object_eq 0 "files" _ _
  rw [hdocument, harray, hreport, jsonUpToPath, List.flatMap_map, Json.render]
  simp [List.prefix_append]

namespace Document

/-- The written form of reports can be read in one way only. -/
theorem reads_iff {reports : List FileReport} (h : ∀ r ∈ reports, r.path.IsText) {d : Document} :
    Reads (writtenJson reports).text d ↔ d = ofReports reports := by
  rw [writtenJson_of_isText h]
  constructor
  · rintro ⟨j, hj, hd⟩
    have hsame : reportsToJson reports = j := Json.display_injective (List.append_cancel_right hj)
    rw [← hsame, ofJson?_reportsToJson h] at hd
    exact (Option.some.inj hd).symm
  · rintro rfl
    exact ⟨_, rfl, ofJson?_reportsToJson h⟩

/-- A document that was broken off cannot be read. -/
theorem not_reads (reports : List FileReport) (d : Document) :
    ¬ Reads (jsonUpToPath reports) d := by
  rintro ⟨j, hj, -⟩
  have hlast : (jsonUpToPath reports).getLast? = some ' ' := by
    rw [jsonUpToPath, List.getLast?_append]
    rfl
  rw [hj, List.getLast?_append] at hlast
  cases hlast

end Document

end Check

end Gherkin
