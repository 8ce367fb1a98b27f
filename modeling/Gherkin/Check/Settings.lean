import Gherkin.Check.OsText
import Gherkin.Parse

/-!
# Settings of a check

What a check is told by its surroundings and its caller: how much to log, and the language of
documents that name none. What the caller says goes before what the surroundings say.
-/

namespace Gherkin.Check

/-- How much is logged. -/
inductive LogLevel where
  | trace
  | debug
  | info
  | warn
  | error
  deriving DecidableEq, Repr

namespace LogLevel

def name : LogLevel → Text
  | trace => "trace"
  | debug => "debug"
  | info => "info"
  | warn => "warn"
  | error => "error"

/-- The words for levels. -/
def words : List (Text × LogLevel) :=
  [("trace", trace), ("debug", debug), ("info", info), ("warn", warn), ("warning", warn),
    ("error", error)]

/-- The level that a word stands for, whatever the case of its letters. Only ASCII letters have a
letter of these words as their lower case. -/
def ofText? (t : Text) : Option LogLevel := words.lookup (t.map Char.toLower)

end LogLevel

/-- Why a check does not begin. -/
inductive CheckError where
  /-- A text is no log level. -/
  | unknownLogLevel (t : Text)
  /-- A path names nothing. -/
  | missingPath (path : OsText)
  deriving DecidableEq, Repr

def CheckError.message : CheckError → Text
  | unknownLogLevel t =>
    "invalid configuration: unknown log level '" ++ t ++
      "', expected one of: trace, debug, info, warn, error".toList
  | missingPath path => "no such file or directory: " ++ path.display

def LogLevel.ofText (t : Text) : Except CheckError LogLevel :=
  match LogLevel.ofText? t with
  | some level => .ok level
  | none => .error (.unknownLogLevel t)

/-- The settings of a check. -/
structure Settings where
  logLevel : LogLevel := .warn
  language : Option Text := none
  deriving DecidableEq, Repr

namespace Settings

def logLevelVariable : Text := "CRESS_LOG_LEVEL"

def languageVariable : Text := "CRESS_LANGUAGE"

/-- The value of a variable without white space around it; a blank value counts as none. -/
def setting? (lookup : Text → Option Text) (name : Text) : Option Text :=
  (lookup name).bind fun value ↦
    if Text.isBlank value then none else some (Text.trim value)

/-- The settings that the variables ask for. -/
def ofLookup (lookup : Text → Option Text) : Except CheckError Settings := do
  let logLevel ← match setting? lookup logLevelVariable with
    | some t => LogLevel.ofText t
    | none => .ok .warn
  return ⟨logLevel, setting? lookup languageVariable⟩

/-- The settings with those changed that are given. -/
def override (c : Settings) (logLevel : Option LogLevel) (language : Option Text) :
    Settings :=
  ⟨logLevel.getD c.logLevel, language <|> c.language⟩

def parseOptions (c : Settings) : ParseOptions := { language := c.language }

end Settings

end Gherkin.Check
