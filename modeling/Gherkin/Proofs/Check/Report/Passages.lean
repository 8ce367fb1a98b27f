import Gherkin.Proofs.Check.Report.Document
import Gherkin.Proofs.Text.Offsets
import Mathlib.Algebra.GroupWithZero.Nat

/-!
# Reports as text

What the text form of reports is to say, in words of its own: for each file in turn the passages
about it, each of one line or more, and the counts at the end. A passage about an example is there
only where examples are listed, and without these passages the text is that of reports which list
none.

Main statements: `Document.text_ofReports`, `Document.passages_erase`, `Document.sums_text_iff`.
-/

namespace Gherkin.Check

/-- How bad it is what is said of a file. -/
inductive Severity where
  | error
  | warning
  deriving DecidableEq, Repr

def Severity.word : Severity → Text
  | error => "error".toList
  | warning => "warning".toList

/-- A passage of the text form of reports. -/
inductive Passage where
  /-- A file holds a feature, with so many scenarios and examples. -/
  | passed (path name : Text) (scenarios examples : Nat)
  /-- An example of a scenario. -/
  | resolved (s : ScenarioSummary) (e : ExampleSummary)
  /-- Something is to be said of a file. -/
  | noticed (path : Text) (severity : Severity) (d : Notice)
  deriving DecidableEq, Repr

/-- So many things of a kind. -/
def counted (n : Nat) (one more : Text) : Text :=
  Text.ofNat n ++ ' ' :: if n = 1 then one else more

/-- The line and the column of a notice; a column is told only of a line. -/
def Notice.numbers (d : Notice) : List Nat :=
  d.line.toList ++ (d.line.bind fun _ ↦ d.column).toList

/-- A line about a file: its path, numbers, a word and what is to be said, with colons between. -/
def lineAbout (path : Text) (numbers : List Nat) (word body : Text) : Text :=
  path ++ ':' :: (numbers.flatMap (Text.ofNat · ++ [':']) ++ ' ' :: (word ++ ':' :: ' ' :: body))

/-- How many scenarios and examples there are, up to the closing bracket. -/
def sizes (scenarios examples : Nat) : Text :=
  counted scenarios "scenario" "scenarios" ++ ',' :: ' ' ::
    (counted examples "example" "examples" ++ [')'])

/-- The name of a feature and, in brackets, how many scenarios and examples it has. -/
def sized (name : Text) (scenarios examples : Nat) : Text :=
  name ++ ' ' :: '(' :: sizes scenarios examples

def bracketed (cells : List (Text × Text)) : Text :=
  ' ' :: '[' :: (Text.join [',', ' '] (cells.map fun c ↦ c.1 ++ [' ', '=', ' '] ++ c.2) ++ [']'])

namespace Passage

def lines : Passage → List Text
  | passed path name scenarios examples =>
    [lineAbout path [] "ok".toList (sized name scenarios examples)]
  | resolved s e =>
    (Text.blanks 2 ++ s.keyword ++ [':', ' '] ++ s.name ++ (e.row.map bracketed).getD []) ::
      e.steps.map (Text.blanks 4 ++ ·)
  | noticed path severity d =>
    lineAbout path d.numbers severity.word d.message :: d.source.toList.map (Text.blanks 4 ++ ·)

/-- Whether a passage is about an example. -/
def isResolved : Passage → Bool
  | resolved _ _ => true
  | _ => false

end Passage

def FeatureSummary.passages (path : Text) (f : FeatureSummary) : List Passage :=
  .passed path f.name f.scenarios.length (f.scenarios.map (·.exampleCount)).sum ::
    f.scenarios.flatMap fun s ↦ s.examples.map (.resolved s)

def FileReport.passages (r : FileReport) : List Passage :=
  match r.error with
  | some error => [.noticed r.path.display .error error]
  | none =>
    (match r.feature with
      | some feature => feature.passages r.path.display
      | none => []) ++
      r.warnings.map (.noticed r.path.display .warning)

def summary (checked failed : Nat) : Text :=
  counted checked "file" "files" ++ " checked, ".toList ++ Text.ofNat failed ++ " failed".toList

namespace Document

def passages (d : Document) : List Passage := d.files.flatMap FileReport.passages

/-- The text form of what a document tells. -/
def text (d : Document) : Text :=
  Text.unlines (d.passages.flatMap Passage.lines ++ [summary d.checked d.failed])

end Document

theorem plural_eq (n : Nat) (noun : Text) : plural n noun = counted n noun (noun ++ ['s']) := by
  rw [plural, counted]
  split <;> simp

theorem Notice.written_eq (path : Text) (severity : Severity) (d : Notice) :
    d.written path severity.word = Text.unlines (Passage.noticed path severity d).lines := by
  obtain ⟨message, line, column, source⟩ := d
  cases line <;> cases column <;> cases source <;>
    simp [written, position, lineOf, Passage.lines, lineAbout, numbers, Text.unlines, Text.blanks]

theorem ExampleSummary.written_eq (s : ScenarioSummary) (e : ExampleSummary) :
    e.written s = Text.unlines (Passage.resolved s e).lines := by
  obtain ⟨row, steps⟩ := e
  cases row <;>
    simp [written, lineOf, Passage.lines, bracketed, Text.unlines, Text.blanks, List.flatMap_map]

theorem FeatureSummary.written_eq (path : Text) (f : FeatureSummary) :
    f.written path = (f.passages path).flatMap fun p ↦ Text.unlines p.lines := by
  have hsum (n : Nat) : f.scenarios.foldl (fun n s ↦ n + s.exampleCount) n =
      n + (f.scenarios.map (·.exampleCount)).sum := by
    induction f.scenarios generalizing n with
    | nil => rfl
    | cons s scenarios ih => rw [List.foldl_cons, ih, List.map_cons, List.sum_cons, Nat.add_assoc]
  rw [written, hsum, Nat.zero_add, passages, List.flatMap_cons, List.flatMap_assoc]
  simp only [List.flatMap_map, plural_eq, ← ExampleSummary.written_eq]
  simp [Passage.lines, lineAbout, sized, sizes, lineOf, Text.unlines]

theorem FileReport.written_eq (r : FileReport) :
    r.written = r.passages.flatMap fun p ↦ Text.unlines p.lines := by
  rw [written, passages]
  cases r.error with
  | some error => exact (Notice.written_eq _ .error error).trans (List.append_nil _).symm
  | none =>
    have hwarnings : r.warnings.flatMap (Notice.written r.path.display "warning") =
        (r.warnings.map (Passage.noticed r.path.display .warning)).flatMap
          fun p ↦ Text.unlines p.lines := by
      rw [List.flatMap_map]
      exact congrArg (r.warnings.flatMap ·) (funext (Notice.written_eq _ .warning))
    cases r.feature with
    | none => exact hwarnings
    | some feature =>
      simp only [FeatureSummary.written_eq, List.flatMap_append, hwarnings]

/-- The text form of reports is that of what their document tells. -/
theorem Document.text_ofReports (reports : List FileReport) :
    writtenText reports = (ofReports reports).text := by
  have hpassages : reports.flatMap FileReport.written =
      Text.unlines ((ofReports reports).passages.flatMap Passage.lines) := by
    rw [Text.unlines_flatMap, passages, List.flatMap_assoc]
    exact congrArg (reports.flatMap ·) (funext FileReport.written_eq)
  rw [writtenText, text, Text.unlines_append, hpassages, plural_eq]
  simp [Text.unlines, lineOf, summary, ofReports]

def ScenarioSummary.erase (s : ScenarioSummary) : ScenarioSummary := { s with examples := [] }

def FeatureSummary.erase (f : FeatureSummary) : FeatureSummary :=
  { f with scenarios := f.scenarios.map ScenarioSummary.erase }

def FileReport.erase (r : FileReport) : FileReport :=
  { r with feature := r.feature.map FeatureSummary.erase }

/-- The document with no examples listed. -/
def Document.erase (d : Document) : Document := { d with files := d.files.map FileReport.erase }

theorem FeatureSummary.passages_erase (path : Text) (f : FeatureSummary) :
    f.erase.passages path = (f.passages path).filter (!·.isResolved) := by
  have hlisted : (f.scenarios.flatMap fun s ↦ s.examples.map (Passage.resolved s)).filter
      (!Passage.isResolved ·) = [] := by
    refine List.filter_eq_nil_iff.2 fun p hp ↦ ?_
    obtain ⟨s, -, hp⟩ := List.mem_flatMap.1 hp
    obtain ⟨e, -, rfl⟩ := List.mem_map.1 hp
    simp [Passage.isResolved]
  rw [passages, passages, List.filter_cons_of_pos rfl, hlisted]
  simp [erase, ScenarioSummary.erase, Function.comp_def]

theorem FileReport.passages_erase (r : FileReport) :
    r.erase.passages = r.passages.filter (!·.isResolved) := by
  obtain ⟨path, feature, error, warnings⟩ := r
  have hwarnings : (warnings.map (Passage.noticed path.display .warning)).filter
      (!Passage.isResolved ·) = warnings.map (Passage.noticed path.display .warning) := by
    refine List.filter_eq_self.2 fun p hp ↦ ?_
    obtain ⟨d, -, rfl⟩ := List.mem_map.1 hp
    rfl
  cases error with
  | some error => rfl
  | none =>
    cases feature with
    | none => exact hwarnings.symm
    | some feature =>
      simp only [passages, erase, Option.map_some, FeatureSummary.passages_erase,
        List.filter_append, hwarnings]

/-- The text without the passages about examples tells what the text of reports without examples
does. -/
theorem Document.passages_erase (d : Document) :
    d.erase.passages = d.passages.filter (!·.isResolved) := by
  rw [passages, passages, erase, List.filter_flatMap, List.flatMap_map]
  exact congrArg (d.files.flatMap ·) (funext FileReport.passages_erase)

open Text (EndsLine OneLine)

theorem endsLine_unlines (lines : List Text) : EndsLine (Text.unlines lines) :=
  Text.endsLine_flatMap fun line ↦ by simp [EndsLine]

theorem oneLine_ofNat (n : Nat) : OneLine (Text.ofNat n) := by
  rintro c hc rfl
  cases Text.isDigit_of_mem_ofNat hc

theorem oneLine_summary (checked failed : Nat) : OneLine (summary checked failed) := by
  have hcounted : OneLine (counted checked "file" "files") := by
    refine (oneLine_ofNat checked).append ?_
    split <;> decide +kernel
  exact ((hcounted.append (by decide +kernel)).append (oneLine_ofNat failed)).append
    (by decide +kernel)

/-- So many things of a kind are told apart from other numbers of them by the number. -/
theorem counted_append_inj {m n : Nat} {one more rest rest' : Text}
    (h : counted m one more ++ rest = counted n one more ++ rest') : m = n ∧ rest = rest' := by
  simp only [counted, List.append_assoc, List.cons_append] at h
  obtain ⟨rfl, hmore⟩ := Text.ofNat_append_inj (Text.noDigit_cons (by decide) _)
    (Text.noDigit_cons (by decide) _) h
  exact ⟨rfl, List.append_cancel_left (List.cons.inj hmore).2⟩

/-- The counts can be read off the line that tells them. -/
theorem summary_inj {checked checked' failed failed' : Nat}
    (h : summary checked failed = summary checked' failed') :
    checked = checked' ∧ failed = failed' := by
  simp only [summary, List.append_assoc] at h
  obtain ⟨rfl, hmore⟩ := counted_append_inj h
  have hfailed := List.append_cancel_left hmore
  exact ⟨rfl, (Text.ofNat_append_inj (Text.noDigit_cons (by decide) _)
    (Text.noDigit_cons (by decide) _) hfailed).1⟩

/-- The last line of a text tells how many files were checked and how many failed. -/
def Sums (t : Text) (checked failed : Nat) : Prop :=
  ∃ front, EndsLine front ∧ t = front ++ summary checked failed ++ ['\n']

theorem Document.sums_text_iff {d : Document} {checked failed : Nat} :
    Sums d.text checked failed ↔ checked = d.checked ∧ failed = d.failed := by
  have hbody : EndsLine (Text.unlines (d.passages.flatMap Passage.lines)) := endsLine_unlines _
  have htext : d.text = Text.unlines (d.passages.flatMap Passage.lines) ++
      summary d.checked d.failed ++ ['\n'] := by
    rw [text, Text.unlines_append, List.append_assoc]
    exact congrArg _ (List.append_nil _)
  constructor
  · rintro ⟨front, hfront, h⟩
    rw [htext] at h
    obtain ⟨-, hline⟩ := Text.append_inj_of_endsLine hbody hfront (oneLine_summary _ _)
      (oneLine_summary _ _) (List.append_cancel_right h)
    obtain ⟨hchecked, hfailed⟩ := summary_inj hline
    exact ⟨hchecked.symm, hfailed.symm⟩
  · rintro ⟨rfl, rfl⟩
    exact ⟨_, hbody, htext⟩

end Gherkin.Check
