import Gherkin.Localization.Message
import Gherkin.Regex.Reader
import Gherkin.Unicode.CaseMap

/-!
# Sentences of definitions

A step definition that is given no pattern takes its sentence from its documentation or from the
name of its handler. This module says how, and why a definition is refused.
-/

namespace Gherkin

/-- Why a step definition is refused. -/
inductive DefinitionError where
  /-- The pattern is not well formed. -/
  | invalidPattern (pattern : Text) (fault : Regex.PatternFault)
  /-- The name of the handler gives no sentence. -/
  | unnamedHandler (name : Text)
  /-- The documentation is blank. -/
  | missingDocumentation
  deriving DecidableEq, Repr

def DefinitionError.message (locales : List Locale) (describe : Regex.PatternFault → Text) :
    DefinitionError → Text
  | invalidPattern pattern fault =>
    MessageId.invalidPattern.render locales [("pattern", pattern), ("reason", describe fault)]
  | unnamedHandler name => MessageId.unnamedHandler.render locales [("handler", name)]
  | missingDocumentation => MessageId.missingDocumentation.render locales []

/-- A text up to its first pair of colons. -/
def beforeColons : Text → Text
  | [] => []
  | ':' :: ':' :: _ => []
  | c :: t => c :: beforeColons t

def lastSegment (path : Text) : Text := (beforeColons path.reverse).reverse

/-- The identifier that a path ends in, without the parameters behind it. -/
def identifierOf (path : Text) : Text := Text.trim (lastSegment (path.takeWhile (· ≠ '<')))

/-- The sentence that an identifier spells: its words are separated by underscores, and the first
letter is put in upper case. Nothing else than letters, digits and underscores may be in it. -/
def sentenceOfIdentifier? (t : Text) : Option Text :=
  if t.all fun c ↦ Unicode.isAlphanumeric c || c = '_' then
    match Text.trim (t.map fun c ↦ if c = '_' then ' ' else c) with
    | [] => none
    | c :: rest => some (Unicode.toUpper c ++ rest)
  else none

/-- The sentence of a handler with the given name. -/
def sentenceOfName (name : Text) : Except DefinitionError Text :=
  match sentenceOfIdentifier? (identifierOf name) with
  | some sentence => .ok sentence
  | none => .error (.unnamedHandler name)

/-- The sentence of a documentation is its first line that is not blank. -/
def sentenceOfDocumentation (documentation : Text) : Except DefinitionError Text :=
  match ((Text.splitLines documentation).map Text.trim).find? (!·.isEmpty) with
  | some sentence => .ok sentence
  | none => .error .missingDocumentation

end Gherkin
