import Gherkin.DocString
import Gherkin.Diagnostic
import Gherkin.Language.Basic
import Gherkin.Record

/-!
# Features

The document model: a feature with its background and scenarios, their steps, and the tables and
multiline strings that steps are given. A feature owns all its parts; a step names the block that
owns it by a `BlockId`, which the feature resolves.
-/

namespace Gherkin

/-- A table of cells; the first row is the header of the others. -/
structure Table where
  rows : List (List Text)
  location : Location
  span : Span
  deriving DecidableEq, Repr

namespace Table

def header (t : Table) : List Text := t.rows.headD []

def body (t : Table) : List (List Text) := t.rows.tail

def width (t : Table) : Nat := t.header.length

/-- Each row of the body under the names of the header. -/
def records (t : Table) : List Record := t.body.map fun row ↦ Record.ofList (t.header.zip row)

end Table

/-- A multiline string. -/
structure DocString where
  content : Text
  contentType : Option Text
  delimiter : Delimiter
  location : Location
  span : Span
  deriving DecidableEq, Repr

/-- The block of a feature that owns a step. -/
inductive BlockId where
  | background
  | scenario (index : Nat)
  deriving DecidableEq, Repr

/-- The words of a step line with one blank between neighbours, which is what step definitions are
matched against. -/
def sentenceOfLine (line : Text) : Text := Text.collapse line

/-- A step with what it is given. The literal is its keyword as the language declares it, the phase
is the kind of the last step before it that opened a phase. -/
structure Step where
  literal : Text
  kind : StepKind
  phase : StepKind
  text : Text
  sentence : Text
  table : Option Table
  docString : Option DocString
  owner : Option BlockId
  location : Location
  span : Span
  deriving DecidableEq, Repr

namespace Step

/-- The keyword as it is written. -/
def keyword (s : Step) : Text := Text.trim s.literal

def keys (s : Step) : List Text := (s.table.map Table.header).getD []

def records (s : Step) : List Record := (s.table.map Table.records).getD []

def multiline (s : Step) : Option Text := s.docString.map (·.content)

end Step

/-- Free lines below a header. -/
structure Description where
  lines : List Text
  location : Location
  span : Span
  deriving DecidableEq, Repr

/-- Steps that precede every scenario. -/
structure Background where
  keyword : Text
  name : Text
  description : Option Description
  steps : List Step
  location : Location
  span : Span
  deriving DecidableEq, Repr

/-- A table of values for the placeholders of a scenario. -/
structure Examples where
  keyword : Text
  name : Text
  tags : List Text
  description : Option Description
  table : Table
  location : Location
  span : Span
  deriving DecidableEq, Repr

/-- A scenario; `outlines` holds the rows of its examples in order. -/
structure Scenario where
  keyword : Text
  kind : BlockKind
  name : Text
  tags : List Text
  description : Option Description
  steps : List Step
  examples : List Examples
  outlines : List Record
  index : Nat
  location : Location
  span : Span
  deriving DecidableEq, Repr

namespace Scenario

/-- Whether the keyword is one for outlines. -/
def hasOutlineKeyword (s : Scenario) : Bool := s.kind = .scenarioOutline

def isOutline (s : Scenario) : Bool := !s.outlines.isEmpty

def id (s : Scenario) : BlockId := .scenario s.index

end Scenario

/-- A whole document. -/
structure Feature where
  keyword : Text
  name : Text
  tags : List Text
  description : Option Description
  background : Option Background
  scenarios : List Scenario
  language : Language
  source : Text
  warnings : List Warning
  location : Location
  span : Span
  deriving DecidableEq, Repr

/-- What a background and a scenario have in common. -/
structure Block where
  name : Text
  steps : List Step
  location : Location
  deriving DecidableEq, Repr

namespace Feature

def path (f : Feature) : Option Text := f.location.path

def block (f : Feature) : BlockId → Option Block
  | .background => f.background.map fun b ↦ ⟨b.name, b.steps, b.location⟩
  | .scenario index => f.scenarios[index]?.map fun s ↦ ⟨s.name, s.steps, s.location⟩

/-- The tags of a scenario together with those of the feature, each once and in order. -/
def tagsOf (f : Feature) (s : Scenario) : List Text := Text.sorted (s.tags ++ f.tags)

/-- The tags of the scenario at an index; none where there is no scenario. -/
def tagsAt (f : Feature) (index : Nat) : List Text :=
  (f.scenarios[index]?.map f.tagsOf).getD []

def sourceText (f : Feature) (s : Span) : Text := (Text.slice? f.source s.start s.stop).getD []

end Feature

end Gherkin
