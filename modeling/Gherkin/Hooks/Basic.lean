import Gherkin.Call.Basic
import Gherkin.Feature.Basic

/-!
# Hooks

A hook is a callback that is run for every target of a scope, at a timing relative to the call that
it accompanies. Of the hooks of one scope and timing, those of an outer tier and of a lower priority
come first on the way in and last on the way out; among equals the order of registration decides.
-/

namespace Gherkin

/-- What a hook accompanies. -/
inductive Scope where
  /-- A whole run. -/
  | all
  /-- A feature. -/
  | feature
  /-- One example of a scenario. -/
  | exampleRun
  /-- The background steps of one example. -/
  | background
  /-- One step. -/
  | step
  deriving DecidableEq, Repr

namespace Scope

def values : List Scope := [all, feature, exampleRun, background, step]

def name : Scope → Text
  | all => "all"
  | feature => "feature"
  | exampleRun => "example"
  | background => "background"
  | step => "step"

end Scope

/-- When a hook is run. -/
inductive Timing where
  /-- Before the call. -/
  | before
  /-- On both sides of the call. -/
  | around
  /-- After the call, whether or not it failed. -/
  | after
  deriving DecidableEq, Repr

namespace Timing

def name : Timing → Text
  | before => "before"
  | around => "around"
  | after => "after"

/-- One on the way in, minus one on the way out. -/
def direction : Timing → Int
  | before | around => 1
  | after => -1

end Timing

/-- The coarse order of hooks, from the outside to the inside. -/
inductive Tier where
  /-- Hooks that surround those of the user. -/
  | outer
  /-- Hooks of the user. -/
  | user
  /-- Hooks that are surrounded by those of the user. -/
  | inner
  deriving DecidableEq, Repr

/-- The place of a tier on the way in. -/
def Tier.rank : Tier → Int
  | outer => -1
  | user => 0
  | inner => 1

/-- What a hook is run for. -/
inductive HookSubject where
  | all
  | feature (f : Feature)
  | exampleRun (f : Feature) (s : Scenario) (outline : Option Record)
  | background (b : Background)
  | step (s : Step)
  deriving DecidableEq, Repr

/-- What an around hook leaves to be done on the way out. A guard that has nothing to do is
`Call.pure ()`. -/
abbrev Guard (σ : Type) : Type := Call σ Text Unit

/-- The callback of a hook, which may report a message as its error. An around hook returns its
guard. -/
abbrev Callback (σ : Type) : Timing → Type
  | .before => HookSubject → Call σ Text Unit
  | .around => HookSubject → Call σ Text (Guard σ)
  | .after => HookSubject → Call σ Text Unit

/-- How a hook is registered: its name, by which a later hook replaces it, and its place among the
others. -/
structure HookPlacement where
  name : Text
  priority : Int := 0
  tier : Tier := .user
  deriving DecidableEq, Repr

/-- A registered hook; `insertion` counts the registrations under names that were new. -/
structure Hook (σ : Type) (t : Timing) where
  name : Text
  id : Nat
  priority : Int
  tier : Tier
  insertion : Nat
  callback : Callback σ t

namespace Hook

variable {σ : Type} {t : Timing}

/-- What the place of a hook depends on, most important first. -/
def key (h : Hook σ t) : List Int :=
  [t.direction * h.tier.rank, t.direction * h.priority, t.direction * h.insertion]

def le (a b : Hook σ t) : Bool := (compare a.key b.key).isLE

end Hook

/-- What the registration of a hook is known by afterwards. -/
structure HookHandle where
  scope : Scope
  timing : Timing
  name : Text
  id : Nat
  deriving DecidableEq, Repr

/-- A hook reported an error. One that was reported on the way out of an around hook has the timing
`around` as well. -/
structure HookFailure where
  scope : Scope
  timing : Timing
  name : Text
  message : Text
  deriving DecidableEq, Repr

def HookFailure.display (locales : List Locale) (f : HookFailure) : Text :=
  MessageId.hookFailed.render locales
    [("timing", f.timing.name), ("scope", f.scope.name), ("name", f.name), ("message", f.message)]

end Gherkin
