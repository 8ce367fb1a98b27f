import Gherkin.Hooks.Bracket
import Gherkin.Steps.Definition
import Gherkin.Text.Quoted
import Std.Data.TreeMap

/-!
# The registry

A registry holds step definitions in the order in which they are tried, and hooks. A sentence is
matched by the first definition whose pattern occurs in it. Registering a pattern that is present
replaces the definition in its place; a handle names one registration only, so a handle to a
replaced definition removes nothing.
-/

namespace Gherkin

/-- Step definitions and hooks. The index tells where in the list the definition of a pattern
stands; `lastId` is the number of the last registration. -/
structure Registry (σ : Type) where
  steps : List (StepDefinition σ) := []
  index : Std.TreeMap Text Nat := ∅
  hooks : HookTable σ := {}
  lastId : Nat := 0

namespace Registry

variable {σ : Type}

def empty : Registry σ := {}

/-- Puts a definition in the place of the one with its pattern, or at the end if there is none. -/
def put (r : Registry σ) (d : StepDefinition σ) : Registry σ :=
  match r.index[d.pattern.text]?.filter (· < r.steps.length) with
  | some i => { r with steps := r.steps.set i d }
  | none =>
    { r with
      steps := r.steps ++ [d]
      index := r.index.insert d.pattern.text r.steps.length }

/-- Registers a handler under a pattern. A pattern that is not well formed changes nothing. -/
def register (r : Registry σ) (pattern : Text) (handler : Handler σ)
    (origin : Option DeclarationSite) : Except DefinitionError (StepHandle × Registry σ) :=
  match StepPattern.ofText pattern with
  | .error fault => .error (.invalidPattern pattern fault)
  | .ok compiled =>
    let id : StepId := ⟨r.lastId + 1⟩
    let r := { r with lastId := id.number }
    .ok (⟨id, pattern⟩, r.put ⟨id, compiled, handler, origin⟩)

/-- Registers a handler under the sentence that its name spells. -/
def registerNamed (r : Registry σ) (name : Text) (handler : Handler σ) :
    Except DefinitionError (StepHandle × Registry σ) := do
  let pattern ← sentenceOfName name
  r.register pattern handler none

/-- Registers a handler under the sentence of its documentation. -/
def registerDocumented (r : Registry σ) (documentation : Text) (handler : Handler σ) :
    Except DefinitionError (StepHandle × Registry σ) := do
  let pattern ← sentenceOfDocumentation documentation
  r.register pattern handler none

/-- Where the definition of each pattern of a list stands. -/
def indexOf (steps : List (StepDefinition σ)) : Std.TreeMap Text Nat :=
  steps.zipIdx.foldl (fun m (d, i) ↦ m.insert d.pattern.text i) ∅

/-- Removes the definition that a handle was given for; the first part of the result says whether it
was still there. -/
def unregister (r : Registry σ) (handle : StepHandle) : Bool × Registry σ :=
  match r.index[handle.pattern]? with
  | none => (false, r)
  | some i =>
    if r.steps[i]?.any (·.id = handle.id) then
      let steps := r.steps.eraseIdx i
      (true, { r with steps := steps, index := indexOf steps })
    else (false, r)

def size (r : Registry σ) : Nat := r.steps.length

def isEmpty (r : Registry σ) : Bool := r.steps.isEmpty

/-- The first definition whose pattern occurs in a sentence. -/
def matchSentence (r : Registry σ) (sentence : Text) :
    Except UndefinedSentence (StepMatch σ) :=
  match r.steps.findSome? fun d ↦ (d.pattern.match? sentence).map (⟨d, ·⟩) with
  | some m => .ok m
  | none => .error ⟨sentence, none⟩

/-- The first definition whose pattern occurs in the sentence of a step. -/
def matchStep (r : Registry σ) (s : Step) : Except UndefinedSentence (StepMatch σ) :=
  (r.matchSentence s.sentence).mapError fun e ↦ { e with location := some s.location }

def hook (r : Registry σ) (scope : Scope) (t : Timing) (options : HookPlacement)
    (callback : Callback σ t) : HookHandle × Registry σ :=
  let (handle, hooks) := r.hooks.insert scope t options callback
  (handle, { r with hooks := hooks })

/-- Removes the hook that a handle was given for; the first part of the result says whether it was
still there. -/
def unhook (r : Registry σ) (handle : HookHandle) : Bool × Registry σ :=
  let (found, hooks) := r.hooks.remove handle
  (found, { r with hooks := hooks })

/-- The hooks of a scope as they are now. -/
def bracket (r : Registry σ) (scope : Scope) : Bracket σ := .ofTable r.hooks scope

theorem bracket_takenFrom (r : Registry σ) (scope : Scope) :
    (r.bracket scope).TakenFrom r.hooks scope :=
  Bracket.takenFrom_ofTable r.hooks scope

/-- Runs a call within the hooks of a scope. -/
def wrap {ε α : Type} (r : Registry σ) (scope : Scope) (target : HookSubject)
    (call : Call σ ε α) : Call σ (BracketError ε) α :=
  (r.bracket scope).around target call

/-- Whether a declaration stands before another or at the same place. -/
def declaredBefore (a b : DeclaredStep σ) : Bool :=
  if a.origin.file = b.origin.file then a.origin.line ≤ b.origin.line
  else Text.le a.origin.file b.origin.file

def registerDeclared (r : Registry σ) (d : DeclaredStep σ) :
    Except DefinitionError (Registry σ) := do
  let pattern ← d.sentence
  let (_, r) ← r.register pattern d.handler (some d.origin)
  return r

/-- The registry of declared steps, which are registered in the order of the places where they are
declared. -/
def ofDeclarations (ds : List (DeclaredStep σ)) : Except DefinitionError (Registry σ) :=
  (ds.mergeSort declaredBefore).foldlM registerDeclared empty

/-- Removes all definitions and hooks. -/
def clear (r : Registry σ) : Registry σ :=
  { r with steps := [], index := ∅, hooks := r.hooks.cleared }

/-- What a registry holds at one time. -/
structure Snapshot (σ : Type) where
  contents : Registry σ

def snapshot (r : Registry σ) : Snapshot σ := ⟨r⟩

/-- Brings back what a snapshot holds. Numbers that were given out since are not given out again. -/
def restore (r : Registry σ) (s : Snapshot σ) : Registry σ :=
  { s.contents with
    lastId := max s.contents.lastId r.lastId
    hooks := s.contents.hooks.skipIds r.hooks }

/-- Runs something with the registry and brings back what the registry held before. What is run may
end in any way. -/
def temporarily {α : Type} (r : Registry σ) (body : Registry σ → α × Registry σ) : α × Registry σ :=
  let (result, changed) := body r
  (result, changed.restore r.snapshot)

def originSummary : Option DeclarationSite → Text
  | none => "None"
  | some o =>
    "Some(StepOrigin \x7b file: " ++ Text.quoted o.file ++ ", line: " ++ Text.ofNat o.line ++
      " \x7d)"

def definitionSummary (d : StepDefinition σ) : Text :=
  "StepDefinition \x7b id: StepId(" ++ Text.ofNat d.id.number ++ "), pattern: " ++
    Text.quoted d.pattern.text ++ ", origin: " ++ originSummary d.origin ++ ", .. \x7d"

def summary (r : Registry σ) : Text :=
  "Registry \x7b steps: [" ++ Text.join ", " (r.steps.map definitionSummary) ++ "], hooks: " ++
    Text.ofNat r.hooks.size ++ ", .. \x7d"

end Registry

end Gherkin
