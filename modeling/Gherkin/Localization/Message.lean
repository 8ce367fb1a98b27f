import Gherkin.Localization.Locale
import Gherkin.Record

/-!
# Messages

A message is known by a key and has a template in every locale. A template is filled in with named
arguments; an argument that is not given shows as its name in braces.
-/

namespace Gherkin

/-- A part of a template: text that stands for itself, or the name of an argument. -/
inductive Segment where
  | text (t : String)
  | argument (name : String)
  deriving DecidableEq, Repr

/-- A message with gaps for its arguments. -/
abbrev Template := List Segment

def Segment.fill (args : Record) : Segment → Text
  | text t => t
  | argument name => (args.get? name).getD ("\x7b$" ++ name.toList ++ "\x7d".toList)

def Template.fill (args : Record) (t : Template) : Text := t.flatMap (Segment.fill args)

/-- The characters that keep a run of text from changing the direction of its surroundings. -/
def isIsolate (c : Char) : Bool := 0x2066 ≤ c.toNat && c.toNat ≤ 0x2069

def stripIsolates (t : Text) : Text := t.filter fun c ↦ !isIsolate c

theorem stripIsolates_idem (t : Text) : stripIsolates (stripIsolates t) = stripIsolates t := by
  simp [stripIsolates]

/-- A message of the library. -/
inductive MessageId where
  | invalidPattern
  | unnamedHandler
  | missingDocumentation
  | undefinedSentence
  | undefinedStep
  | stepPanicked
  | hookFailed
  | stepNotFound
  | handlerFailed
  | foreignPayload
  deriving DecidableEq, Repr

namespace MessageId

def all : List MessageId :=
  [invalidPattern, unnamedHandler, missingDocumentation, undefinedSentence, undefinedStep,
    stepPanicked, hookFailed, stepNotFound, handlerFailed, foreignPayload]

def key : MessageId → Text
  | invalidPattern => "step-loading-invalid-pattern"
  | unnamedHandler => "step-loading-unnamed-handler"
  | missingDocumentation => "step-loading-missing-documentation"
  | undefinedSentence => "no-definition-found"
  | undefinedStep => "no-definition-found-at"
  | stepPanicked => "step-error-panicked"
  | hookFailed => "hook-failed"
  | stepNotFound => "execution-step-not-found"
  | handlerFailed => "execution-handler-failed"
  | foreignPayload => "panic-message-opaque-payload"

def ofKey? (key : Text) : Option MessageId := all.find? fun id ↦ id.key = key

end MessageId

open Segment in
/-- The templates in English. -/
def englishTemplate : MessageId → Template
  | .invalidPattern =>
    [text "invalid step pattern '", argument "pattern", text "': ", argument "reason"]
  | .unnamedHandler =>
    [text "cannot derive a step sentence from '", argument "handler",
      text "'; register it with an explicit pattern"]
  | .missingDocumentation =>
    [text "step documentation has no sentence; register it with an explicit pattern"]
  | .undefinedSentence => [text "no step definition matches '", argument "sentence", text "'"]
  | .undefinedStep | .stepNotFound =>
    [argument "location", text ": no step definition matches '", argument "sentence", text "'"]
  | .stepPanicked => [text "step panicked: ", argument "message"]
  | .hookFailed =>
    [argument "timing", text " ", argument "scope", text " hook '", argument "name",
      text "' failed: ", argument "message"]
  | .handlerFailed =>
    [argument "location", text ": step '", argument "sentence", text "' matched by '",
      argument "pattern", text "' failed: ", argument "message"]
  | .foreignPayload => [text "opaque panic payload (", argument "type", text ")"]

open Segment in
/-- The templates in French. -/
def frenchTemplate : MessageId → Template
  | .invalidPattern =>
    [text "motif d'étape invalide « ", argument "pattern", text " » : ", argument "reason"]
  | .unnamedHandler =>
    [text "impossible de déduire une phrase d'étape depuis « ", argument "handler",
      text " » ; enregistrez-la avec un motif explicite"]
  | .missingDocumentation =>
    [text "la documentation de l'étape ne contient aucune phrase ; ",
      text "enregistrez-la avec un motif explicite"]
  | .undefinedSentence =>
    [text "aucune définition d'étape ne correspond à « ", argument "sentence", text " »"]
  | .undefinedStep | .stepNotFound =>
    [argument "location", text " : aucune définition d'étape ne correspond à « ",
      argument "sentence", text " »"]
  | .stepPanicked => [text "l'étape a paniqué : ", argument "message"]
  | .hookFailed =>
    [text "le crochet ", argument "timing", text " ", argument "scope", text " « ",
      argument "name", text " » a échoué : ", argument "message"]
  | .handlerFailed =>
    [argument "location", text " : l'étape « ", argument "sentence",
      text " » associée au motif « ", argument "pattern", text " » a échoué : ",
      argument "message"]
  | .foreignPayload => [text "charge utile de panique opaque (", argument "type", text ")"]

def Locale.template : Locale → MessageId → Template
  | english => englishTemplate
  | french => frenchTemplate

/-- A message in the first of a list of locales. -/
def MessageId.render (locales : List Locale) (id : MessageId) (args : List (Text × Text)) : Text :=
  stripIsolates (Template.fill (Record.ofList args) ((locales.headD .english).template id))

/-- The message that a key names in the first of a list of locales, or a remark that there is
none. -/
def renderKey (locales : List Locale) (key : Text) (args : List (Text × Text)) : Text :=
  match MessageId.ofKey? key with
  | some id => id.render locales args
  | none => stripIsolates ("No localization for id: \"" ++ key ++ "\"")

end Gherkin
