import Gherkin.Call.Basic
import Gherkin.Feature.Basic
import Gherkin.Steps.Pattern
import Gherkin.Steps.Sentence

/-!
# Step definitions

A step definition ties a pattern to the handler of the steps that it matches. Registering one gives
a handle, which names that registration and no other.
-/

namespace Gherkin

/-- What a handler is called with: the step, the arguments that its sentence gives, and the row of
examples that it was resolved with. -/
structure HandlerInput where
  step : Step
  arguments : StepArguments
  outline : Option Record
  deriving DecidableEq, Repr

/-- Why a step failed. -/
inductive StepFailure where
  /-- The handler reported an error. -/
  | failed (message : Text)
  /-- The handler broke off. -/
  | panicked (payload : Payload)
  deriving DecidableEq, Repr

namespace StepFailure

def message (locales : List Locale) : StepFailure → Text
  | failed message => message
  | panicked payload => payload.message locales

def display (locales : List Locale) (e : StepFailure) : Text :=
  match e with
  | failed message => message
  | panicked _ => MessageId.stepPanicked.render locales [("message", e.message locales)]

end StepFailure

/-- A handler, which may change a state of type `σ`. -/
abbrev Handler (σ : Type) : Type := HandlerInput → Call σ StepFailure Unit

/-- The number of a registration. -/
structure StepId where
  number : Nat
  deriving DecidableEq, Repr

/-- The place in a program where a step is declared. -/
structure DeclarationSite where
  file : Text
  line : Nat
  deriving DecidableEq, Repr

/-- A registered step. -/
structure StepDefinition (σ : Type) where
  id : StepId
  pattern : StepPattern
  handler : Handler σ
  origin : Option DeclarationSite

/-- What a registration is known by afterwards. -/
structure StepHandle where
  id : StepId
  pattern : Text
  deriving DecidableEq, Repr

/-- A definition that matches a sentence, with the arguments that the sentence gives. -/
structure StepMatch (σ : Type) where
  definition : StepDefinition σ
  arguments : StepArguments

/-- No definition matches a sentence, which stands at a place if it is that of a step. -/
structure UndefinedSentence where
  sentence : Text
  location : Option Location
  deriving DecidableEq, Repr

def UndefinedSentence.message (locales : List Locale) (e : UndefinedSentence) : Text :=
  match e.location with
  | none => MessageId.undefinedSentence.render locales [("sentence", e.sentence)]
  | some location =>
    MessageId.undefinedStep.render locales
      [("location", location.display), ("sentence", e.sentence)]

/-- A step that is declared beside its handler, to be registered with all others of its kind. -/
structure DeclaredStep (σ : Type) where
  pattern : Option Text
  documentation : Option Text
  name : Text
  handler : Handler σ
  origin : DeclarationSite

/-- The pattern of a declared step: the one given, else the sentence of its documentation, else that
of its name. -/
def declaredSentence (pattern documentation : Option Text) (name : Text) :
    Except DefinitionError Text :=
  match pattern, documentation with
  | some pattern, _ => .ok pattern
  | none, some documentation => sentenceOfDocumentation documentation
  | none, none => sentenceOfName name

/-- The pattern that a declaration is registered under. -/
def DeclaredStep.sentence {σ : Type} (d : DeclaredStep σ) : Except DefinitionError Text :=
  declaredSentence d.pattern d.documentation d.name

end Gherkin
