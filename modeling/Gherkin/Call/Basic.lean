import Gherkin.Call.Payload

/-!
# Calls

Handlers and hooks are supplied from outside. A `Call` is what the library knows about one: it may
change a state of some type, and it ends in one of three ways. Whatever the callbacks do to each
other and to the world goes through that state, so the order in which they run can be read off it.

Main statements: a call that is made up of two runs the second only if the first returned
(`andThen_of_ok`, `andThen_of_error`, `andThen_of_panic`).
-/

namespace Gherkin

/-- How a call ends: it returns a value, reports an error, or breaks off. -/
inductive Outcome (ε α : Type) where
  | ok (value : α)
  | error (reason : ε)
  | panic (payload : Payload)
  deriving DecidableEq, Repr

namespace Outcome

variable {ε ε' α : Type}

/-- An outcome with its error seen as another one. -/
def mapError (f : ε → ε') : Outcome ε α → Outcome ε' α
  | ok a => ok a
  | error e => error (f e)
  | panic p => panic p

end Outcome

/-- A call that may change a state of type `σ`. -/
abbrev Call (σ ε α : Type) : Type := σ → Outcome ε α × σ

namespace Call

variable {σ ε ε' α β : Type}

def pure (a : α) : Call σ ε α := fun w ↦ (.ok a, w)

def throw (e : ε) : Call σ ε α := fun w ↦ (.error e, w)

/-- Runs a call, and if it returns, the call that its value asks for. -/
def andThen (c : Call σ ε α) (k : α → Call σ ε β) : Call σ ε β := fun w ↦
  match c w with
  | (.ok a, w') => k a w'
  | (.error e, w') => (.error e, w')
  | (.panic p, w') => (.panic p, w')

/-- Runs a call and sees its error as another one. -/
def mapError (f : ε → ε') (c : Call σ ε α) : Call σ ε' α := fun w ↦
  let (outcome, w') := c w
  (outcome.mapError f, w')

/-- Runs a call and reports as an error what it breaks off with. -/
def catching (f : Payload → ε) (c : Call σ ε α) : Call σ ε α := fun w ↦
  match c w with
  | (.panic p, w') => (.error (f p), w')
  | ended => ended

/-- Runs a call and returns how it ended, unless it broke off. -/
def attempt (c : Call σ ε α) : Call σ ε' (Except ε α) := fun w ↦
  match c w with
  | (.ok a, w') => (.ok (.ok a), w')
  | (.error e, w') => (.ok (.error e), w')
  | (.panic p, w') => (.panic p, w')

theorem andThen_of_ok {c : Call σ ε α} {k : α → Call σ ε β} {w w' : σ} {a : α}
    (h : c w = (.ok a, w')) : c.andThen k w = k a w' := by
  simp [andThen, h]

theorem andThen_of_error {c : Call σ ε α} {k : α → Call σ ε β} {w w' : σ} {e : ε}
    (h : c w = (.error e, w')) : c.andThen k w = (.error e, w') := by
  simp [andThen, h]

theorem andThen_of_panic {c : Call σ ε α} {k : α → Call σ ε β} {w w' : σ} {p : Payload}
    (h : c w = (.panic p, w')) : c.andThen k w = (.panic p, w') := by
  simp [andThen, h]

end Call

end Gherkin
