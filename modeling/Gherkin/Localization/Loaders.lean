import Gherkin.Localization.Message

/-!
# Loaders of messages

Messages are rendered by a loader, in the locales that were selected in it. One loader serves the
whole process. A scope puts a loader of its own in the slot of its thread, and the guard of the
scope keeps what was in the slot before, to put it back when it is dropped. Whatever asks for
messages or selects locales turns to the loader in the slot, or to that of the process where the
slot is empty.

What loads translations is left open here, as is what can go wrong with it.
-/

namespace Gherkin

/-- What is asked of a library of translations. A selection changes the loader that it is given; it
gives the locales that serve a request, best first, or says why there are none. -/
structure Translations (L ε : Type) where
  /-- A loader in which nothing was selected yet. -/
  fresh : L
  select : List LanguageTag → L → Except ε (List Locale) × L
  languages : L → List Locale
  render : L → Text → List (Text × Text) → Text

/-- A selection that fails leaves its loader as it was. -/
def Translations.KeepsOnError {L ε : Type} (T : Translations L ε) : Prop :=
  ∀ requested l e, (T.select requested l).1 = .error e → (T.select requested l).2 = l

/-- Why locales were not selected or could not be told. -/
inductive LocalizationError (ε : Type) where
  /-- A thread broke off while it was changing the loader of the process. -/
  | poisoned
  /-- The translations could not be loaded. -/
  | loader (e : ε)
  deriving DecidableEq, Repr

def LocalizationError.message {ε : Type} (describe : ε → Text) : LocalizationError ε → Text
  | poisoned => "localization state is poisoned"
  | loader e => "failed to load localization resources: " ++ describe e

/-- The loader of the process, the one in the slot of the thread, and what the guards of the scopes
keep, innermost first. -/
structure Loaders (L : Type) where
  processWide : L
  poisoned : Bool := false
  slot : Option L := none
  kept : List (Option L) := []
  deriving DecidableEq, Repr

namespace Loaders

variable {L ε : Type} (T : Translations L ε)

/-- The loader that messages come from. -/
def active (s : Loaders L) : L := s.slot.getD s.processWide

/-- Enters a scope. Its loader is put in the slot only once locales are selected in it. -/
def enter (requested : List LanguageTag) (s : Loaders L) :
    Except (LocalizationError ε) Unit × Loaders L :=
  match T.select requested T.fresh with
  | (.error e, _) => (.error (.loader e), s)
  | (.ok _, loader) => (.ok (), { s with slot := some loader, kept := s.slot :: s.kept })

/-- Drops the guard of the innermost scope, and tells whether there was one. -/
def leave (s : Loaders L) : Bool × Loaders L :=
  match s.kept with
  | [] => (false, s)
  | previous :: kept => (true, { s with slot := previous, kept })

/-- Selects locales in the loader in the slot, else in that of the process. -/
def select (requested : List LanguageTag) (s : Loaders L) :
    Except (LocalizationError ε) (List Locale) × Loaders L :=
  match s.slot with
  | some loader =>
    let (selected, loader) := T.select requested loader
    (selected.mapError .loader, { s with slot := some loader })
  | none =>
    if s.poisoned then (.error .poisoned, s)
    else
      let (selected, loader) := T.select requested s.processWide
      (selected.mapError .loader, { s with processWide := loader })

/-- The locales in force, best first. -/
def languages (s : Loaders L) : Except (LocalizationError ε) (List Locale) :=
  match s.slot with
  | some loader => .ok (T.languages loader)
  | none => if s.poisoned then .error .poisoned else .ok (T.languages s.processWide)

/-- A message in the locales in force; it is rendered even where these can no longer be told. -/
def message (key : Text) (args : List (Text × Text)) (s : Loaders L) : Text :=
  stripIsolates (T.render s.active key args)

end Loaders

end Gherkin
