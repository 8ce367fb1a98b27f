import Gherkin.Check.Report.Printer

/-!
# The command line

What the arguments of the program ask for, and what the program answers: an exit status and the text
it prints. Arguments are read in order, and the first one that is wrong decides; a request for the
version or for help counts as soon as it is reached. A path may be any bytes, all else has to be a
text.
-/

namespace Gherkin.Check

/-- What a check is asked to do. -/
structure CheckRequest where
  language : Option Text := none
  format : ReportFormat := .text
  expand : Bool := false
  logLevel : Option LogLevel := none
  paths : List OsText := []
  deriving DecidableEq, Repr

/-- What is asked of the program. -/
inductive Request where
  | check (r : CheckRequest)
  | version
  | help
  deriving DecidableEq, Repr

/-- Why arguments are refused. -/
inductive UsageError where
  /-- There is no such option. -/
  | unknownOption (option : Text)
  /-- An option lacks its value. -/
  | missingValue (option : Text)
  /-- An option was given a value it does not take. -/
  | unexpectedValue (option : Text)
  /-- An option was given a value that it does not know. -/
  | invalidValue (option value : Text)
  /-- An option was given before. -/
  | repeated (option : Text)
  /-- A path is empty. -/
  | emptyPath
  /-- No path was given. -/
  | noPath
  deriving DecidableEq, Repr

/-- An option that takes a value. -/
inductive ValueOption where
  | language
  | format
  | logLevel
  deriving DecidableEq, Repr

/-- An option that takes none. -/
inductive FlagOption where
  | expand
  | version
  | help
  deriving DecidableEq, Repr

/-- An argument that is not a path. -/
inductive OptionName where
  | valued (o : ValueOption)
  | flag (o : FlagOption)
  deriving DecidableEq, Repr

def longOption? (name : Text) : Option OptionName :=
  List.lookup name
    [("language".toList, .valued .language), ("format".toList, .valued .format),
      ("log-level".toList, .valued .logLevel), ("expand".toList, .flag .expand),
      ("version".toList, .flag .version), ("help".toList, .flag .help)]

/-- The option of a letter. -/
def shortOption? (letter : Char) : Option FlagOption :=
  if letter = 'V' then some .version else if letter = 'h' then some .help else none

/-- The request with the value of an option put in; an option is given at most once. -/
def setValue (o : ValueOption) (seen : List OptionName) (name : Text) (value : OsText)
    (r : CheckRequest) : Except UsageError CheckRequest :=
  if seen.contains (.valued o) then .error (.repeated name)
  else
    match value.text? with
    | none => .error (.invalidValue name value.display)
    | some value =>
      match o with
      | .language => .ok { r with language := some value }
      | .format =>
        if value = "text".toList then .ok { r with format := .text }
        else if value = "json".toList then .ok { r with format := .json }
        else .error (.invalidValue name value)
      | .logLevel =>
        match LogLevel.ofText? value with
        | some level => .ok { r with logLevel := some level }
        | none => .error (.invalidValue name value)

/-- An argument that would be an option if it came by itself is no value. A dash alone is one. -/
def isValue (argument : OsText) : Bool :=
  match argument.display with
  | '-' :: _ :: _ => false
  | _ => true

/-- The value of a long option, behind an equals sign. -/
def optionValue? (argument : OsText) : Option OsText :=
  match argument.dropWhile (· ≠ '='.toUInt8) with
  | [] => none
  | _ :: value => some value

def addPath (path : OsText) (r : CheckRequest) : Except UsageError CheckRequest :=
  if path.isEmpty then .error .emptyPath else .ok { r with paths := r.paths ++ [path] }

/-- What the arguments ask for, after others were read into a request. Dashes, names of options and
the equals sign can be told from what is shown of an argument. -/
def readArguments (args : List OsText) (seen : List OptionName) (r : CheckRequest) :
    Except UsageError Request :=
  match args with
  | [] => if r.paths.isEmpty then .error .noPath else .ok (.check r)
  | argument :: rest =>
    match argument.display with
    | ['-', '-'] => do
      let r ← rest.foldlM (fun r path ↦ addPath path r) r
      if r.paths.isEmpty then .error .noPath else .ok (.check r)
    | '-' :: '-' :: body =>
      match longOption? (body.takeWhile (· ≠ '=')), optionValue? argument with
      | none, _ => .error (.unknownOption body)
      | some (.flag _), some _ => .error (.unexpectedValue body)
      | some (.flag .version), none => .ok .version
      | some (.flag .help), none => .ok .help
      | some (.flag .expand), none =>
        if seen.contains (.flag .expand) then .error (.repeated body)
        else readArguments rest (.flag .expand :: seen) { r with expand := true }
      | some (.valued o), some value => do
        let r ← setValue o seen body value r
        readArguments rest (.valued o :: seen) r
      | some (.valued o), none =>
        match rest with
        | [] => .error (.missingValue body)
        | value :: rest =>
          if isValue value then do
            let r ← setValue o seen body value r
            readArguments rest (.valued o :: seen) r
          else .error (.missingValue body)
    | '-' :: letter :: letters =>
      match shortOption? letter with
      | some .version => .ok .version
      | some _ => .ok .help
      | none => .error (.unknownOption (letter :: letters))
    | _ => do
      let r ← addPath argument r
      readArguments rest seen r

def Request.ofArguments (args : List OsText) : Except UsageError Request := readArguments args [] {}

/-- How the program ends: its exit status, what it prints, and what it has to complain about. -/
structure Answer where
  status : Nat
  output : Text
  complaint : Option Text
  deriving DecidableEq, Repr

def versionText : Text := "cress-check 0.3.0\n"

def usageText : Text :=
  lineOf ("usage: cress-check [--language CODE] [--format text|json] [--expand] " ++
    "[--log-level LEVEL] PATH...".toList)

def UsageError.message : UsageError → Text
  | unknownOption option => "unknown option: " ++ option
  | missingValue option => "missing value: " ++ option
  | unexpectedValue option => "unexpected value: " ++ option
  | invalidValue option value => "invalid value for " ++ option ++ ": " ++ value
  | repeated option => "option given twice: " ++ option
  | emptyPath => "empty path"
  | noPath => "no path given"

/-- The answer once reports were written, given whether every file holds a feature. -/
def Written.answer (w : Written) (ok : Bool) : Answer :=
  match w.error with
  | some e => ⟨1, w.text, some e.message⟩
  | none => ⟨if ok then 0 else 1, w.text, none⟩

/-- The answer to a request to check files. The status is zero if every file holds a feature, one if
not, if a path names nothing or if the reports cannot be written, and two if the settings are
wrong. -/
def CheckRequest.answer (lookup : Text → Option Text)
    (find : OsText → Except ReadFailure FileTree) (r : CheckRequest) : Answer :=
  match Settings.ofLookup lookup with
  | .error e => ⟨2, [], some e.message⟩
  | .ok config =>
    match reportsOn find (config.override r.logLevel r.language) r.expand r.paths with
    | .error e => ⟨1, [], some e.message⟩
    | .ok reports => (r.format.write reports).answer (reports.all FileReport.isOk)

/-- The answer of the program to its arguments. -/
def answer (lookup : Text → Option Text) (find : OsText → Except ReadFailure FileTree)
    (args : List OsText) : Answer :=
  match Request.ofArguments args with
  | .error e => ⟨2, [], some e.message⟩
  | .ok .version => ⟨0, versionText, none⟩
  | .ok .help => ⟨0, usageText, none⟩
  | .ok (.check r) => r.answer lookup find

end Gherkin.Check
