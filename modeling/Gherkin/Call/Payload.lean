import Gherkin.Localization.Message
import Gherkin.Number.Binary64

/-!
# Panic payloads

What a callback throws when it breaks off instead of returning. Texts and numbers show as
themselves; a value of any other type is described by the name of its type.
-/

namespace Gherkin

/-- A value that a callback breaks off with. -/
inductive Payload where
  | text (t : Text)
  | integer (i : Int)
  | float (x : Binary64)
  | foreign (typeName : Text)
  deriving DecidableEq, Repr

def Payload.message (locales : List Locale) : Payload → Text
  | text t => t
  | integer i => integerText i
  | float x => x.display
  | foreign typeName => MessageId.foreignPayload.render locales [("type", typeName)]

end Gherkin
