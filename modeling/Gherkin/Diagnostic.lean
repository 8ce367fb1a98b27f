import Gherkin.Position
import Gherkin.Text.Quoted

/-!
# What can be wrong with a document

A document is refused for one of the causes listed here, and some weaknesses are only reported.
Causes are data; their wording is kept in one place, `SyntaxFault.message`.
-/

namespace Gherkin

/-- Why a document is refused at a place. -/
inductive SyntaxFault where
  /-- The document does not begin with a feature header. -/
  | expectedFeature (found : Text)
  /-- A header was looked for at another kind of line. -/
  | expectedHeader
  /-- A second background follows the first. -/
  | secondBackground
  /-- A step has both kinds of argument. -/
  | tableAndString
  /-- A step has two multiline strings. -/
  | secondString
  /-- Tags stand before a background. -/
  | taggedBackground
  /-- Tags stand before something that takes no tags. -/
  | danglingTags
  /-- Something other than a step stands among bare steps. -/
  | expectedStep (found : Text)
  /-- A second feature header. -/
  | secondFeature
  /-- A background after a scenario. -/
  | lateBackground
  /-- Examples that belong to no scenario. -/
  | looseExamples
  /-- A header that fits nowhere. -/
  | unexpectedBlock (found : Text)
  /-- A step that belongs to no block. -/
  | looseStep
  /-- A table row that belongs to no step. -/
  | looseTable
  /-- A multiline string that belongs to no step. -/
  | looseString
  /-- Free text after the steps have begun. -/
  | unexpectedText
  /-- A multiline string without its closing line. -/
  | unterminatedString
  /-- A table row that does not end with a bar. -/
  | openRow
  /-- A word among tags that is no tag. -/
  | invalidTag (word : Text)
  /-- A feature header without a name. -/
  | unnamedFeature
  /-- A feature without scenarios. -/
  | noScenario
  /-- A scenario header without a name. -/
  | unnamedScenario
  /-- An examples header without rows. -/
  | examplesWithoutTable
  /-- A table row that is not as wide as the first. -/
  | raggedRow (expected found : Nat)
  /-- A table without rows. -/
  | emptyTable
  /-- A feature is asked for, but the document was read as bare steps. -/
  | readAsSteps
  /-- Bare steps are asked for, but the document was read as a feature. -/
  | readAsFeature
  deriving DecidableEq, Repr

/-- The wording of a cause. -/
def SyntaxFault.message : SyntaxFault → Text
  | expectedFeature found => "expected a Feature, found " ++ found
  | expectedHeader => "expected a block header"
  | secondBackground => "a Feature can have only one Background"
  | tableAndString => "a step cannot have both a table and a multiline string"
  | secondString => "a step cannot have more than one multiline string"
  | taggedBackground => "tags are not allowed before Background"
  | danglingTags => "tags must be followed by a Feature, Scenario or Examples"
  | expectedStep found => "expected a step, found " ++ found
  | secondFeature => "Expected EOF (max one feature per file)"
  | lateBackground => "Background must come before the first Scenario"
  | looseExamples => "Examples must follow a Scenario"
  | unexpectedBlock found => "unexpected " ++ found
  | looseStep => "step must belong to a Scenario or Background"
  | looseTable => "table must follow a step"
  | looseString => "multiline string must follow a step"
  | unexpectedText => "unexpected text"
  | unterminatedString => "unterminated multiline string"
  | openRow => "table row must end with '|'"
  | invalidTag word => "invalid tag '" ++ word ++ "'"
  | unnamedFeature => "Feature must have a name"
  | noScenario => "Feature must contain at least one Scenario"
  | unnamedScenario => "Scenario must have a name"
  | examplesWithoutTable => "Examples must have a table"
  | raggedRow expected found =>
    "inconsistent table row: expected " ++ Text.ofNat expected ++ " cell(s), found " ++
      Text.ofNat found
  | emptyTable => "table must have at least one row"
  | readAsSteps => "expected a Feature, but the document was parsed as steps"
  | readAsFeature => "expected steps, but the document was parsed as a Feature"

/-- A message at a place, and below it the line it is about unless that is blank. -/
def diagnosticText (location : Location) (message line : Text) : Text :=
  let shown : Text := if Text.isBlank line then [] else "\n    " ++ Text.trimEnd line
  location.display ++ ": " ++ message ++ shown

/-- A message at a place with the quoted text it is about. -/
def warningText (location : Location) (message line : Text) : Text :=
  location.display ++ ": " ++ message ++ ": " ++ Text.quoted line

/-- A document is refused: where, why, and the line that shows it. -/
structure SyntaxError where
  location : Location
  fault : SyntaxFault
  line : Text
  deriving DecidableEq, Repr

def SyntaxError.display (e : SyntaxError) : Text :=
  diagnosticText e.location e.fault.message e.line

/-- A line of a multiline string that is indented less than the line that opens the string, and what
was kept of it. -/
structure Warning where
  location : Location
  line : Text
  deriving DecidableEq, Repr

/-- What a warning says. -/
def Warning.message (_ : Warning) : Text :=
  "multiline string line is indented less than its opening delimiter"

def Warning.display (w : Warning) : Text := warningText w.location w.message w.line

/-- Why a file could not be read as text. -/
inductive ReadFailure where
  | notFound
  | isDirectory
  | notADirectory
  | notUtf8
  deriving DecidableEq, Repr

def ReadFailure.message : ReadFailure → Text
  | notFound => "No such file or directory (os error 2)"
  | isDirectory => "Is a directory (os error 21)"
  | notADirectory => "Not a directory (os error 20)"
  | notUtf8 => "stream did not contain valid UTF-8"

/-- Why no document came out of a text or a file. -/
inductive ParseError where
  | refused (e : SyntaxError)
  | unknownLanguage (code : Text)
  | unreadable (path : Text) (reason : ReadFailure)
  deriving DecidableEq, Repr

def ParseError.display : ParseError → Text
  | refused e => e.display
  | unknownLanguage code => "unknown language '" ++ code ++ "'"
  | unreadable path reason => "failed to read " ++ path ++ ": " ++ reason.message

end Gherkin
