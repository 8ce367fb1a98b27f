import Gherkin.Check.CommandLine
import Gherkin.Proofs.Check.Overlap
import Gherkin.Proofs.Check.Report.Plain
import Gherkin.Proofs.Feature.ExampleWalk

/-!
# One story in all answers

A check answers with an exit status and with reports in one of two forms, with the examples of the
scenarios or without. All these answers tell the same of the files that were found: which of them
hold a feature, what is wrong with the others, and how many there are of each. What is listed of the
examples is told in addition and changes nothing else. The one exception is a file whose path is no
text: it has no place in a JSON document, and the answer in this form breaks off with the status of
a failure, whatever the file holds.

Main statement: `answers_agree`.
-/

namespace Gherkin.Check

/-- The notice tells of a failure. Where a text is refused it tells the place, and shows the line
there unless it is blank. -/
def Notice.TellsFailure (d : Notice) : ParseError → Prop
  | .refused e =>
    d.message = e.fault.message ∧ d.line = some e.location.line ∧
      d.column = some e.location.column ∧
      d.source = if Text.isBlank e.line then none else some (Text.trim e.line)
  | e => d.message = e.display ∧ d.line = none ∧ d.column = none ∧ d.source = none

/-- The notice tells of a warning, its place and the line there. -/
structure Notice.TellsWarning (d : Notice) (w : Warning) : Prop where
  message_eq : d.message = w.message
  line_eq : d.line = some w.location.line
  column_eq : d.column = some w.location.column
  source_eq : d.source = some w.line

/-- The summary tells of a scenario how many examples it has, and lists them all if examples are
asked for, with a sentence for each step. -/
structure ScenarioSummary.Tells (expand : Bool) (f : Feature) (s : Scenario)
    (r : ScenarioSummary) : Prop where
  keyword_eq : r.keyword = s.keyword
  name_eq : r.name = s.name
  line_eq : r.line = s.location.line
  tags_eq : r.tags = f.tagsOf s
  exampleCount_eq : r.exampleCount = max 1 s.bodyRows
  length_examples : r.examples.length = if expand then r.exampleCount else 0
  length_steps : ∀ e ∈ r.examples, e.steps.length = s.steps.length

/-- The summary tells of a feature what it is and, in order, of its scenarios. -/
structure FeatureSummary.Tells (expand : Bool) (f : Feature) (r : FeatureSummary) : Prop where
  name_eq : r.name = f.name
  language_eq : r.language = f.language.code
  background_eq : r.background = f.background.isSome
  scenarios : List.Forall₂ (ScenarioSummary.Tells expand f) f.scenarios r.scenarios

/-- What reading a file as a feature gives. -/
def FoundFile.parse (options : ParseOptions) (file : FoundFile) : Except ParseError Feature :=
  parseFeatureFile options file.path.display file.read

/-- The report tells of a file why it holds no feature, or the feature with what is odd about it. -/
structure FileReport.Tells (options : ParseOptions) (expand : Bool) (file : FoundFile)
    (r : FileReport) : Prop where
  path_eq : r.path = file.path
  of_error {e : ParseError} : file.parse options = .error e →
    (∃ d, r.error = some d ∧ d.TellsFailure e) ∧ r.feature = none ∧ r.warnings = []
  of_ok {f : Feature} : file.parse options = .ok f →
    r.error = none ∧ List.Forall₂ Notice.TellsWarning r.warnings f.warnings ∧
      ∃ summary, r.feature = some summary ∧ summary.Tells expand f

/-- The document tells of each file in order, and of how many. -/
structure Document.Tells (options : ParseOptions) (expand : Bool) (files : List FoundFile)
    (d : Document) : Prop where
  checked_eq : d.checked = files.length
  failed_eq : d.failed = files.countP fun file ↦ (file.parse options).toOption.isNone
  reports : List.Forall₂ (FileReport.Tells options expand) files d.files

section Reports

variable {options : ParseOptions} {expand : Bool}

theorem tells_ofScenario {text : Text} {f : Feature} (hf : parseFeature options text = .ok f)
    {s : Scenario} (hs : s ∈ f.scenarios) :
    (ScenarioSummary.ofScenario expand f s).Tells expand f s where
  keyword_eq := rfl
  name_eq := rfl
  line_eq := rfl
  tags_eq := rfl
  exampleCount_eq := Scenario.exampleCount_eq (outlines_of_parseFeature hf hs)
  length_examples := by
    cases expand with
    | false => rfl
    | true => exact (List.length_map _).trans s.length_resolvedExamples
  length_steps := by
    cases expand with
    | false => nofun
    | true =>
      intro summary hsummary
      obtain ⟨e, he, rfl⟩ := List.mem_map.1 hsummary
      exact (List.length_map _).trans (ExampleCursor.length_steps_of_mem he)

theorem tells_ofFeature {text : Text} {f : Feature} (hf : parseFeature options text = .ok f) :
    (FeatureSummary.ofFeature expand f).Tells expand f where
  name_eq := rfl
  language_eq := rfl
  background_eq := rfl
  scenarios := by
    refine List.forall₂_map_right_iff.2 (List.forall₂_same.2 fun s hs ↦ ?_)
    exact tells_ofScenario hf hs

theorem Notice.tellsFailure_ofParseError (e : ParseError) : (ofParseError e).TellsFailure e := by
  cases e with
  | refused e =>
    refine ⟨rfl, rfl, rfl, ?_⟩
    simp only [ofParseError, List.isEmpty_iff, ← Text.isBlank_iff_trim_eq_nil]
  | unknownLanguage code => exact ⟨rfl, rfl, rfl, rfl⟩
  | unreadable path reason => exact ⟨rfl, rfl, rfl, rfl⟩

theorem tells_ofFile (options : ParseOptions) (expand : Bool) (file : FoundFile) :
    (FileReport.ofFile options expand file).Tells options expand file where
  path_eq := FileReport.path_ofFile options expand file
  of_error {e} h := by
    rw [FileReport.ofFile, ← FoundFile.parse, h]
    exact ⟨⟨_, rfl, Notice.tellsFailure_ofParseError e⟩, rfl, rfl⟩
  of_ok {f} h := by
    rw [FileReport.ofFile, ← FoundFile.parse, h]
    refine ⟨rfl, ?_, _, rfl, ?_⟩
    · exact List.forall₂_map_left_iff.2 (List.forall₂_same.2 fun _ _ ↦ ⟨rfl, rfl, rfl, rfl⟩)
    · rw [FoundFile.parse] at h
      cases hread : file.read with
      | error reason =>
        rw [hread] at h
        cases h
      | ok text =>
        rw [hread] at h
        exact tells_ofFeature h

theorem isOk_ofFile (options : ParseOptions) (expand : Bool) (file : FoundFile) :
    (FileReport.ofFile options expand file).isOk = (file.parse options).toOption.isSome := by
  rw [FileReport.ofFile, ← FoundFile.parse]
  cases file.parse options <;> rfl

theorem erase_ofFile (options : ParseOptions) (file : FoundFile) :
    (FileReport.ofFile options true file).erase = FileReport.ofFile options false file := by
  rw [FileReport.ofFile, FileReport.ofFile, ← FoundFile.parse]
  cases file.parse options with
  | error e => rfl
  | ok f =>
    have hscenarios : (FeatureSummary.ofFeature true f).erase = .ofFeature false f := by
      rw [FeatureSummary.erase, FeatureSummary.ofFeature, List.map_map]
      rfl
    rw [FileReport.ofResult, FileReport.erase, Option.map_some, hscenarios]
    rfl

theorem tells_ofReports (options : ParseOptions) (expand : Bool) (files : List FoundFile) :
    (Document.ofReports (files.map (FileReport.ofFile options expand))).Tells options expand
      files where
  checked_eq := List.length_map _
  failed_eq := by
    change failedCount _ = _
    rw [failedCount, ← List.countP_eq_length_filter, List.countP_map]
    apply List.countP_congr
    intro file _
    simp [isOk_ofFile]
  reports := List.forall₂_map_right_iff.2 (List.forall₂_same.2 fun file _ ↦
    tells_ofFile options expand file)

theorem erase_ofReports (options : ParseOptions) (files : List FoundFile) :
    (Document.ofReports (files.map (FileReport.ofFile options true))).erase =
      .ofReports (files.map (FileReport.ofFile options false)) := by
  have hfiles : (files.map (FileReport.ofFile options true)).map FileReport.erase =
      files.map (FileReport.ofFile options false) := by
    rw [List.map_map]
    exact List.map_congr_left fun file _ ↦ erase_ofFile options file
  have hfailed : failedCount (files.map (FileReport.ofFile options true)) =
      failedCount (files.map (FileReport.ofFile options false)) :=
    calc
      _ = files.countP _ := (tells_ofReports options true files).failed_eq
      _ = _ := (tells_ofReports options false files).failed_eq.symm
  rw [Document.erase, Document.ofReports, Document.ofReports, Document.mk.injEq]
  exact ⟨hfiles, by rw [List.length_map, List.length_map], hfailed⟩

end Reports

section Answers

variable {lookup : Text → Option Text} {find : OsText → Except ReadFailure FileTree}
  {r : CheckRequest} {config : Settings} {files : List FoundFile}

/-- The answer to a request in another form, with the examples or without. -/
def CheckRequest.answerIn (lookup : Text → Option Text)
    (find : OsText → Except ReadFailure FileTree) (r : CheckRequest) (format : ReportFormat)
    (expand : Bool) : Answer :=
  { r with format := format, expand := expand }.answer lookup find

def CheckRequest.parseOptions (r : CheckRequest) (config : Settings) : ParseOptions :=
  (config.override r.logLevel r.language).parseOptions

def CheckRequest.reports (r : CheckRequest) (config : Settings) (files : List FoundFile)
    (expand : Bool) : List FileReport :=
  files.map (FileReport.ofFile (r.parseOptions config) expand)

theorem answerIn_eq (hconfig : Settings.ofLookup lookup = .ok config)
    (hfiles : findFiles find r.paths = .ok files) (format : ReportFormat) (expand : Bool) :
    r.answerIn lookup find format expand =
      (format.write (r.reports config files expand)).answer
        ((r.reports config files expand).all FileReport.isOk) := by
  have hreports : reportsOn find (config.override r.logLevel r.language) expand r.paths =
      .ok (r.reports config files expand) :=
    reportsOn_eq_ok_iff.2 ⟨files, hfiles, rfl⟩
  rw [CheckRequest.answerIn, CheckRequest.answer, hconfig]
  simp only [hreports]

theorem all_isOk_reports_iff (expand : Bool) :
    (r.reports config files expand).all FileReport.isOk ↔
      ∀ file ∈ files, ∃ f, file.parse (r.parseOptions config) = .ok f := by
  have hok (file : FoundFile) :
      (FileReport.ofFile (r.parseOptions config) expand file).isOk ↔ ∃ f,
        file.parse (r.parseOptions config) = .ok f := by
    rw [isOk_ofFile]
    cases file.parse (r.parseOptions config) <;> simp [Except.toOption]
  simp [CheckRequest.reports, hok]

theorem isText_of_mem_reports {expand : Bool} (h : ∀ file ∈ files, file.path.IsText) :
    ∀ report ∈ r.reports config files expand, report.path.IsText := by
  refine List.forall_mem_map.2 fun file hfile ↦ ?_
  rw [FileReport.path_ofFile]
  exact h file hfile

/-- The answer in text form tells a document: it says what the document tells in words, sums up its
counts and no others, and has the status zero exactly if each file holds a feature. -/
structure TextAnswer (options : ParseOptions) (files : List FoundFile) (d : Document)
    (a : Answer) : Prop where
  output_eq : a.output = d.text
  sums_iff {checked failed : Nat} :
    Sums a.output checked failed ↔ checked = d.checked ∧ failed = d.failed
  status_eq_zero_iff : a.status = 0 ↔ ∀ file ∈ files, ∃ f, file.parse options = .ok f

/-- The answer in JSON form tells a document: its text says what the document tells and nothing
else, and it has the status zero exactly if each file holds a feature. -/
structure JsonAnswer (options : ParseOptions) (files : List FoundFile) (d : Document)
    (a : Answer) : Prop where
  reads_iff {d' : Document} : Document.Reads a.output d' ↔ d' = d
  status_eq_zero_iff : a.status = 0 ↔ ∀ file ∈ files, ∃ f, file.parse options = .ok f

/-- The answer in JSON form breaks off at a path: what is written goes on with the path in the
document of what is shown of all paths, and is none itself. It complains and has the status one. -/
structure BrokenAnswer (path : OsText) (d : Document) (a : Answer) : Prop where
  not_reads {d' : Document} : ¬ Document.Reads a.output d'
  output_prefix : a.output ++ Json.quote path.display <+: (reportsToJson d.files).display
  complaint : a.complaint.isSome
  status_eq_one : a.status = 1

theorem textAnswer (hconfig : Settings.ofLookup lookup = .ok config)
    (hfiles : findFiles find r.paths = .ok files) (expand : Bool) :
    TextAnswer (r.parseOptions config) files (.ofReports (r.reports config files expand))
      (r.answerIn lookup find .text expand) := by
  have houtput : (r.answerIn lookup find .text expand).output =
      (Document.ofReports (r.reports config files expand)).text := by
    rw [answerIn_eq hconfig hfiles]
    exact Document.text_ofReports _
  refine ⟨houtput, ?_, ?_⟩
  · rw [houtput]
    exact Document.sums_text_iff
  · rw [answerIn_eq hconfig hfiles, ← all_isOk_reports_iff expand]
    simp [ReportFormat.write, Written.answer]

theorem jsonAnswer (hconfig : Settings.ofLookup lookup = .ok config)
    (hfiles : findFiles find r.paths = .ok files) (htexts : ∀ file ∈ files, file.path.IsText)
    (expand : Bool) :
    JsonAnswer (r.parseOptions config) files (.ofReports (r.reports config files expand))
      (r.answerIn lookup find .json expand) := by
  have hreports : ∀ report ∈ r.reports config files expand, report.path.IsText :=
    isText_of_mem_reports htexts
  have hanswer := answerIn_eq hconfig hfiles .json expand
  rw [ReportFormat.write, writtenJson_of_isText hreports] at hanswer
  refine ⟨fun {d} ↦ ?_, ?_⟩
  · rw [← Document.reads_iff hreports, hanswer, writtenJson_of_isText hreports]
    rfl
  · rw [hanswer, ← all_isOk_reports_iff expand]
    simp [Written.answer]

theorem brokenAnswer (hconfig : Settings.ofLookup lookup = .ok config)
    {before after : List FoundFile} {file : FoundFile}
    (hfiles : findFiles find r.paths = .ok (before ++ file :: after))
    (hbefore : ∀ f ∈ before, f.path.IsText) (hfile : ¬ file.path.IsText) (expand : Bool) :
    BrokenAnswer file.path (.ofReports (r.reports config (before ++ file :: after) expand))
      (r.answerIn lookup find .json expand) := by
  have hpath : (FileReport.ofFile (r.parseOptions config) expand file).path = file.path :=
    FileReport.path_ofFile _ _ file
  have hreports : r.reports config (before ++ file :: after) expand =
      r.reports config before expand ++ .ofFile (r.parseOptions config) expand file ::
        r.reports config after expand := by
    rw [CheckRequest.reports, List.map_append, List.map_cons]
    rfl
  have hanswer := answerIn_eq hconfig hfiles .json expand
  rw [hreports, ReportFormat.write,
    writtenJson_append (isText_of_mem_reports hbefore) (by rwa [hpath])] at hanswer
  rw [hanswer, hreports]
  refine ⟨fun {d} ↦ Document.not_reads _ d, ?_, rfl, rfl⟩
  rw [← hpath]
  exact jsonUpToPath_append_prefix _ _ _

/-- All answers to a request tell the same of the files that were found. There is one document for
the answers without examples and one for those with them. It tells of each file what is to be told
and counts them rightly, and the text form tells it. So does the JSON form if each path is a text;
else it breaks off at the first path that is none. Where each passage can be read off its lines, the
text without examples can be read in one way only. Without the examples the two documents are one,
and so are the two texts without the passages about examples. -/
theorem answers_agree (hconfig : Settings.ofLookup lookup = .ok config)
    (hfiles : findFiles find r.paths = .ok files) :
    ∃ told : Bool → Document,
      (∀ expand,
        (told expand).Tells (r.parseOptions config) expand files ∧
        TextAnswer (r.parseOptions config) files (told expand)
          (r.answerIn lookup find .text expand) ∧
        ((∀ file ∈ files, file.path.IsText) →
          JsonAnswer (r.parseOptions config) files (told expand)
            (r.answerIn lookup find .json expand)) ∧
        ∀ before file after, files = before ++ file :: after → (∀ f ∈ before, f.path.IsText) →
          ¬ file.path.IsText →
            BrokenAnswer file.path (told expand) (r.answerIn lookup find .json expand)) ∧
      ((∀ p ∈ (told false).passages, p.Plain) → ∀ ps checked failed,
        Shows (r.answerIn lookup find .text false).output ps checked failed ↔
          ps = (told false).passages ∧ checked = (told false).checked ∧
            failed = (told false).failed) ∧
      (told true).erase = told false ∧
      (told false).passages = (told true).passages.filter (!·.isResolved) := by
  let told (expand : Bool) : Document := .ofReports (r.reports config files expand)
  have herase : (told true).erase = told false := erase_ofReports _ files
  refine ⟨told, fun expand ↦ ⟨tells_ofReports _ expand files, textAnswer hconfig hfiles expand,
    fun htexts ↦ jsonAnswer hconfig hfiles htexts expand, ?_⟩, fun hplain ps checked failed ↦ ?_,
    herase, ?_⟩
  · rintro before file after rfl hbefore hfile
    exact brokenAnswer hconfig hfiles hbefore hfile expand
  · rw [(textAnswer hconfig hfiles false).output_eq]
    exact Document.shows_text_iff hplain
  · rw [← herase, Document.passages_erase]

end Answers

/-- A file without a scenario. -/
def bareText : Text := "Feature: b\n".toList

/-- A file with a warning and a scenario of two examples. -/
def oddText : Text :=
  ("Feature: f\nScenario Outline: s\nGiven <n>\n  \"\"\"\nx\n  \"\"\"\n" ++
    "Examples:\n|n|\n|1|\n|2|\n").toList

/-- A directory with these files and one that is no text. -/
def mixedTree : FileTree :=
  .directory [(.ofText "bare.feature".toList, .file (some bareText)),
    (.ofText "odd.feature".toList, .file (some oddText)),
    (.ofText "raw.feature".toList, .file none)]

def mixedFiles : List FoundFile :=
  [⟨.ofText "./bare.feature".toList, some bareText⟩, ⟨.ofText "./odd.feature".toList, some oddText⟩,
    ⟨.ofText "./raw.feature".toList, none⟩]

theorem findFiles_mixedTree : findFiles mixedTree.find [.ofText ".".toList] = .ok mixedFiles := by
  cbv

theorem isNone_parse_mixedFiles :
    mixedFiles.map (fun file ↦ (file.parse {}).toOption.isNone) = [true, false, true] := by
  have hbare : (declaredLanguage? (dropByteOrderMark bareText) <|> none).getD
      Language.defaultCode = Language.defaultCode := by decide +kernel
  have hodd : (declaredLanguage? (dropByteOrderMark oddText) <|> none).getD
      Language.defaultCode = Language.defaultCode := by decide +kernel
  simp only [mixedFiles, List.map_cons, List.map_nil, FoundFile.parse, FoundFile.read,
    parseFeatureFile, parseFeature, parse, OsText.display_ofText]
  rw [hbare, hodd, Language.find?_defaultCode]
  decide +kernel

def mixedRequest : CheckRequest := { paths := [.ofText ".".toList] }

theorem answers_agree_on_mixedTree : ∃ told : Bool → Document,
    (∀ expand, (told expand).checked = 3 ∧ (told expand).failed = 2 ∧
      (∀ d, Document.Reads (mixedRequest.answerIn (fun _ ↦ none) mixedTree.find .json expand).output
        d ↔ d = told expand) ∧
      Sums (mixedRequest.answerIn (fun _ ↦ none) mixedTree.find .text expand).output 3 2 ∧
      ∀ format, (mixedRequest.answerIn (fun _ ↦ none) mixedTree.find format expand).status ≠ 0) ∧
    (told true).erase = told false := by
  obtain ⟨told, htold, -, herase, -⟩ := @answers_agree (fun _ ↦ none) mixedTree.find mixedRequest {}
    mixedFiles rfl findFiles_mixedTree
  refine ⟨told, fun expand ↦ ?_, herase⟩
  obtain ⟨htells, htext, hjson, -⟩ := htold expand
  have hjson := hjson (by simp [mixedFiles, OsText.IsText])
  have hchecked : (told expand).checked = 3 := htells.checked_eq
  have hfailed : (told expand).failed = 2 := by
    have hcount := congrArg (List.countP id) isNone_parse_mixedFiles
    rw [List.countP_map] at hcount
    exact htells.failed_eq.trans hcount
  refine ⟨hchecked, hfailed, fun d ↦ hjson.reads_iff,
    htext.sums_iff.2 ⟨hchecked.symm, hfailed.symm⟩, fun format h ↦ ?_⟩
  -- the first file does not parse
  have hfirst : ((FoundFile.mk (.ofText "./bare.feature".toList) (some bareText)).parse
    {}).toOption.isNone := (List.cons.inj isNone_parse_mixedFiles).1
  have hall : ∀ file ∈ mixedFiles, ∃ f, file.parse {} = .ok f := by
    cases format with
    | text => exact htext.status_eq_zero_iff.1 h
    | json => exact hjson.status_eq_zero_iff.1 h
  obtain ⟨f, hf⟩ := hall _ List.mem_cons_self
  rw [hf] at hfirst
  cases hfirst

/-- A name that ends as a feature file does and begins with a byte that is part of no character. -/
def strayName : OsText := 0xFF :: OsText.ofText ".feature".toList

def strayText : Text := "Feature: f\nScenario: s\n".toList

def strayTree : FileTree := .directory [(strayName, .file (some strayText))]

def strayFile : FoundFile := ⟨OsText.ofText "./".toList ++ strayName, some strayText⟩

theorem findFiles_strayTree : findFiles strayTree.find [.ofText ".".toList] = .ok [strayFile] := by
  cbv

theorem not_isText_strayFile : ¬ strayFile.path.IsText := by
  have hnone : OsText.text? strayFile.path = none := by decide +kernel
  rw [OsText.isText_iff, hnone]
  exact Bool.false_ne_true

theorem exists_parse_strayFile : ∃ f, strayFile.parse {} = .ok f := by
  have hlanguage : (declaredLanguage? (dropByteOrderMark strayText) <|> none).getD
      Language.defaultCode = Language.defaultCode := by decide +kernel
  have hsome : (strayFile.parse {}).toOption.isSome := by
    simp only [strayFile, FoundFile.parse, FoundFile.read, parseFeatureFile, parseFeature, parse]
    rw [hlanguage, Language.find?_defaultCode]
    decide +kernel
  cases h : strayFile.parse {} with
  | ok f => exact ⟨f, rfl⟩
  | error e =>
    rw [h] at hsome
    cases hsome

/-- The name of a file can make the status that of a failure, though each file holds a feature. -/
theorem not_status_eq_zero_iff :
    ¬ ∀ (lookup : Text → Option Text) (find : OsText → Except ReadFailure FileTree)
        (r : CheckRequest) (config : Settings) (files : List FoundFile) (format : ReportFormat)
        (expand : Bool), Settings.ofLookup lookup = .ok config →
        findFiles find r.paths = .ok files →
      ((r.answerIn lookup find format expand).status = 0 ↔ ∀ file ∈ files, ∃ f,
        file.parse (r.parseOptions config) = .ok f) := by
  intro h
  have hstatus : (mixedRequest.answerIn (fun _ ↦ none) strayTree.find .json false).status = 0 := by
    refine (h _ _ _ {} _ _ _ rfl findFiles_strayTree).2 fun file hfile ↦ ?_
    rw [List.mem_singleton.1 hfile]
    exact exists_parse_strayFile
  have hbroken := @brokenAnswer (fun _ ↦ none) strayTree.find mixedRequest {} rfl [] [] strayFile
    findFiles_strayTree nofun not_isText_strayFile false
  rw [hbroken.status_eq_one] at hstatus
  cases hstatus

end Gherkin.Check
