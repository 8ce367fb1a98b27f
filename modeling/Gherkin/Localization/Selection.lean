import Gherkin.Localization.Loaders

/-!
# The selected locales

The locales in force are chosen once for the whole process, and may be chosen anew inside a scope.
Requests come as texts; one in which a tag is malformed is not made at all.

Main statement: a message is the one that its key names in the first of the locales in force
(`message_eq`).
-/

namespace Gherkin

/-- The translations that come with the library. A loader is the list of the locales selected in
it. -/
def bundled : Translations (List Locale) Empty where
  fresh := []
  select requested _ := (.ok (Locale.negotiate requested), Locale.negotiate requested)
  languages locales := locales
  render locales key args := renderKey locales key args

/-- The loaders of a thread, with the translations that come with the library. -/
structure Localization extends Loaders (List Locale) where
  processWide := [.english]
  deriving DecidableEq, Repr

namespace Localization

/-- The locales that serve a request, which fails if a tag in it is malformed. -/
def load (requested : List Text) : Option (List Locale) :=
  (requested.mapM LanguageTag.ofText?).map Locale.negotiate

/-- The locales in force, best first. -/
def current (l : Localization) : List Locale := bundled.languages l.active

/-- Enters a scope with locales of its own. -/
def enter (l : Localization) (requested : List Text) : Option Localization :=
  (requested.mapM LanguageTag.ofText?).map fun tags ↦ ⟨(l.toLoaders.enter bundled tags).2⟩

/-- Leaves the innermost scope, if there is one. -/
def leave (l : Localization) : Option Localization :=
  match l.toLoaders.leave with
  | (true, s) => some ⟨s⟩
  | (false, _) => none

/-- Chooses the locales that serve a request. -/
def select (l : Localization) (requested : List Text) : Option Localization :=
  (requested.mapM LanguageTag.ofText?).map fun tags ↦ ⟨(l.toLoaders.select bundled tags).2⟩

def message (l : Localization) (key : Text) (args : List (Text × Text)) : Text :=
  l.toLoaders.message bundled key args

theorem message_eq (l : Localization) (key : Text) (args : List (Text × Text)) :
    l.message key args = renderKey l.current key args := by
  have hstripped : stripIsolates (renderKey l.current key args) = renderKey l.current key args := by
    rw [renderKey]
    split
    · exact stripIsolates_idem _
    · exact stripIsolates_idem _
  exact hstripped

end Localization

end Gherkin
