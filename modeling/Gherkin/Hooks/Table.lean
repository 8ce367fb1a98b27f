import Gherkin.Hooks.Basic

/-!
# The table of hooks

Hooks are kept in one list for each scope and timing. Registering a name that is present replaces
the hook and keeps its place; removing needs the handle of the very registration.

Main statements: a list that is put in is the list found there (`bucket_putBucket_self`), and the
other lists stay as they are (`bucket_putBucket_of_ne`).
-/

namespace Gherkin

/-- The registered hooks; `lastId` and `lastInsertion` are the numbers given out last. -/
structure HookTable (σ : Type) where
  buckets : Scope → (t : Timing) → List (Hook σ t) := fun _ _ ↦ []
  lastInsertion : Nat := 0
  lastId : Nat := 0

namespace HookTable

variable {σ : Type}

/-- The hooks of a scope and timing in order of registration. -/
def bucket (table : HookTable σ) (scope : Scope) (t : Timing) : List (Hook σ t) :=
  table.buckets scope t

/-- The table with other hooks for a scope and timing. -/
def putBucket (table : HookTable σ) (scope : Scope) (t : Timing) (hooks : List (Hook σ t)) :
    HookTable σ :=
  { table with
    buckets := fun s u ↦ if h : s = scope ∧ t = u then h.2 ▸ hooks else table.buckets s u }

@[simp] theorem bucket_putBucket_self (table : HookTable σ) (scope : Scope) (t : Timing)
    (hooks : List (Hook σ t)) : (table.putBucket scope t hooks).bucket scope t = hooks := by
  simp [bucket, putBucket]

theorem bucket_putBucket_of_ne (table : HookTable σ) {scope s : Scope} {t u : Timing}
    (hooks : List (Hook σ t)) (h : ¬(s = scope ∧ t = u)) :
    (table.putBucket scope t hooks).bucket s u = table.bucket s u := by
  simp only [bucket, putBucket]
  rw [dif_neg h]

/-- The table without hooks that goes on counting where another one is. -/
def cleared (table : HookTable σ) : HookTable σ := { lastId := table.lastId }

/-- The table with numbers that were given out by another one left out in future. -/
def skipIds (table other : HookTable σ) : HookTable σ :=
  { table with lastId := max table.lastId other.lastId }

/-- A hook replaced by a later registration of its name. -/
def replaced {t : Timing} (options : HookPlacement) (id : Nat) (callback : Callback σ t)
    (h : Hook σ t) : Hook σ t :=
  if h.name = options.name then
    { h with id := id, priority := options.priority, tier := options.tier, callback := callback }
  else h

/-- Registers a hook: in the place of the hook of the same name if there is one, else at the end. -/
def insert (table : HookTable σ) (scope : Scope) (t : Timing) (options : HookPlacement)
    (callback : Callback σ t) : HookHandle × HookTable σ :=
  let id := table.lastId + 1
  let hooks := table.bucket scope t
  let table :=
    if hooks.any (·.name = options.name) then
      table.putBucket scope t (hooks.map (replaced options id callback))
    else
      let insertion := table.lastInsertion + 1
      let hook : Hook σ t :=
        ⟨options.name, id, options.priority, options.tier, insertion, callback⟩
      { table.putBucket scope t (hooks ++ [hook]) with lastInsertion := insertion }
  (⟨scope, t, options.name, id⟩, { table with lastId := id })

/-- Removes the hook that a handle was given for; the first part of the result says whether it was
still there. -/
def remove (table : HookTable σ) (handle : HookHandle) : Bool × HookTable σ :=
  let hooks := table.bucket handle.scope handle.timing
  if hooks.any (·.id = handle.id) then
    (true, table.putBucket handle.scope handle.timing (hooks.filter (·.id ≠ handle.id)))
  else (false, table)

/-- The hooks of a scope and timing in the order in which they are run. -/
def ordered (table : HookTable σ) (scope : Scope) (t : Timing) : List (Hook σ t) :=
  (table.bucket scope t).mergeSort Hook.le

def countIn (table : HookTable σ) (scope : Scope) : Nat :=
  (table.bucket scope .before).length + (table.bucket scope .around).length +
    (table.bucket scope .after).length

def size (table : HookTable σ) : Nat := Scope.values.foldl (fun n s ↦ n + table.countIn s) 0

end HookTable

end Gherkin
