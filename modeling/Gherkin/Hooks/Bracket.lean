import Gherkin.Hooks.Table

/-!
# Brackets

A bracket holds the hooks of one scope as they are at one time. Entering it runs the before hooks
and enters the around hooks; leaving it releases the guards that were handed out, newest first, and
then runs the after hooks. A call within a bracket is run in between, and the first thing that goes
wrong is what the whole reports.

A callback that breaks off ends the half of the bracket that it belongs to. The guards that are held
at that time are released when the bracket is given up.
-/

namespace Gherkin

/-- A guard with the name of the hook that handed it out. -/
structure HeldGuard (σ : Type) where
  name : Text
  exit : Guard σ

/-- The hooks of a scope in the order in which they are run, and the guards that are held, newest
first. -/
structure Bracket (σ : Type) where
  scope : Scope
  befores : List (Hook σ .before)
  arounds : List (Hook σ .around)
  afters : List (Hook σ .after)
  entered : List (HeldGuard σ) := []

namespace Bracket

variable {σ ε α : Type}

def ofTable (table : HookTable σ) (scope : Scope) : Bracket σ :=
  { scope := scope
    befores := table.ordered scope .before
    arounds := table.ordered scope .around
    afters := table.ordered scope .after }

/-- The bracket is taken from a table: it has the hooks of the scope in the order of the table, each
timing by itself, and holds no guard. -/
structure TakenFrom (b : Bracket σ) (table : HookTable σ) (scope : Scope) : Prop where
  scope_eq : b.scope = scope
  befores_eq : b.befores = table.ordered scope .before
  arounds_eq : b.arounds = table.ordered scope .around
  afters_eq : b.afters = table.ordered scope .after
  entered_eq : b.entered = []

theorem takenFrom_ofTable (table : HookTable σ) (scope : Scope) :
    (ofTable table scope).TakenFrom table scope :=
  ⟨rfl, rfl, rfl, rfl, rfl⟩

/-- Runs before hooks in order, up to the first that does not succeed. -/
def runBefores (scope : Scope) (target : HookSubject) :
    List (Hook σ .before) → Call σ HookFailure Unit
  | [], w => (.ok (), w)
  | h :: rest, w =>
    match h.callback target w with
    | (.ok (), w) => runBefores scope target rest w
    | (.error m, w) => (.error ⟨scope, .before, h.name, m⟩, w)
    | (.panic p, w) => (.panic p, w)

/-- Enters around hooks in order, up to the first that does not succeed, on top of the guards that
are held already. -/
def enterArounds (scope : Scope) (target : HookSubject) :
    List (Hook σ .around) → List (HeldGuard σ) → σ →
      Outcome HookFailure Unit × List (HeldGuard σ) × σ
  | [], held, w => (.ok (), held, w)
  | h :: rest, held, w =>
    match h.callback target w with
    | (.ok guard, w) => enterArounds scope target rest (⟨h.name, guard⟩ :: held) w
    | (.error m, w) => (.error ⟨scope, .around, h.name, m⟩, held, w)
    | (.panic p, w) => (.panic p, held, w)

/-- Runs the before hooks and, if all succeed, enters the around hooks. -/
def enter (b : Bracket σ) (target : HookSubject) (w : σ) :
    Outcome HookFailure Unit × Bracket σ × σ :=
  match runBefores b.scope target b.befores w with
  | (.ok (), w) =>
    let (outcome, held, w) := enterArounds b.scope target b.arounds b.entered w
    (outcome, { b with entered := held }, w)
  | (stopped, w) => (stopped, b, w)

/-- Releases guards, newest first, and keeps the first failure. A guard that breaks off leaves those
below it held. -/
def releaseGuards (scope : Scope) :
    List (HeldGuard σ) → Option HookFailure → σ →
      Except Payload (Option HookFailure) × List (HeldGuard σ) × σ
  | [], first, w => (.ok first, [], w)
  | g :: rest, first, w =>
    match g.exit w with
    | (.ok (), w) => releaseGuards scope rest first w
    | (.error m, w) => releaseGuards scope rest (first <|> some ⟨scope, .around, g.name, m⟩) w
    | (.panic p, w) => (.error p, rest, w)

/-- Runs after hooks in order, whether or not they succeed, and keeps the first failure. -/
def runAfters (scope : Scope) (target : HookSubject) :
    List (Hook σ .after) → Option HookFailure → σ → Except Payload (Option HookFailure) × σ
  | [], first, w => (.ok first, w)
  | h :: rest, first, w =>
    match h.callback target w with
    | (.ok (), w) => runAfters scope target rest first w
    | (.error m, w) =>
      runAfters scope target rest (first <|> some ⟨scope, .after, h.name, m⟩) w
    | (.panic p, w) => (.error p, w)

/-- How a half ends that kept its first failure. -/
def ending : Except Payload (Option HookFailure) → Outcome HookFailure Unit
  | .ok none => .ok ()
  | .ok (some f) => .error f
  | .error p => .panic p

/-- Releases all guards and runs the after hooks; the first failure is reported. -/
def leave (b : Bracket σ) (target : HookSubject) (w : σ) :
    Outcome HookFailure Unit × Bracket σ × σ :=
  match releaseGuards b.scope b.entered none w with
  | (.ok first, held, w) =>
    let (result, w) := runAfters b.scope target b.afters first w
    (ending result, { b with entered := held }, w)
  | (.error p, held, w) => (.panic p, { b with entered := held }, w)

/-- Gives a bracket up: the guards that are still held are released, and what they report is lost.
One that breaks off is the last to be released. -/
def abandon (b : Bracket σ) : Call σ HookFailure Unit := fun w ↦
  match releaseGuards b.scope b.entered none w with
  | (.ok _, _, w) => (.ok (), w)
  | (.error p, _, w) => (.panic p, w)

end Bracket

/-- Why a call within a bracket failed: through a hook or by itself. -/
inductive BracketError (ε : Type) where
  | hook (failure : HookFailure)
  | call (reason : ε)
  deriving DecidableEq, Repr

/-- How a call ends whose bracket was left in some way. A hook that breaks off on the way out has
the last word; else a failure of the call comes before one of the way out. -/
def Outcome.settle {ε α : Type} (inside : Outcome (BracketError ε) α)
    (exit : Outcome HookFailure Unit) : Outcome (BracketError ε) α :=
  match inside, exit with
  | _, .panic p => .panic p
  | .ok _, .error f => .error (.hook f)
  | inside, _ => inside

namespace Bracket

variable {σ ε α : Type}

/-- Leaves a bracket after the call in it ended in some way, and gives it up. -/
def conclude (b : Bracket σ) (target : HookSubject) (inside : Outcome (BracketError ε) α)
    (w : σ) : Outcome (BracketError ε) α × σ :=
  let (exit, b, w) := b.leave target w
  let (_, w) := b.abandon w
  (inside.settle exit, w)

/-- Runs a call within a bracket. The call is run only if the way in succeeds; the way out is taken
whether or not it did, unless a hook broke off on the way in. -/
def around (b : Bracket σ) (target : HookSubject) (call : Call σ ε α) :
    Call σ (BracketError ε) α := fun w ↦
  let (entry, b, w) := b.enter target w
  match entry with
  | .ok () =>
    let (outcome, w) := call w
    b.conclude target (outcome.mapError .call) w
  | .error f => b.conclude target (.error (.hook f)) w
  | .panic p =>
    let (_, w) := b.abandon w
    (.panic p, w)

def summary (b : Bracket σ) : Text :=
  let scope : Text := match b.scope with
    | .all => "All"
    | .feature => "Feature"
    | .exampleRun => "Example"
    | .background => "Background"
    | .step => "Step"
  "HookBracket \x7b scope: " ++ scope ++ ", befores: " ++ Text.ofNat b.befores.length ++
    ", arounds: " ++ Text.ofNat b.arounds.length ++ ", afters: " ++
    Text.ofNat b.afters.length ++ ", entered: " ++ Text.ofNat b.entered.length ++ " \x7d"

end Bracket

end Gherkin
