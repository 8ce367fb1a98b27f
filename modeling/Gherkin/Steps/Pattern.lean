import Gherkin.Record
import Gherkin.Regex.Reader
import Gherkin.Regex.Search

/-!
# Step patterns

The pattern of a step definition is a regular expression that is looked for anywhere in a sentence,
whatever the case of the letters. What its groups match are the arguments of the step. A pattern
with a named group hands over the named groups and no others; a pattern without one hands over all
its groups in order.
-/

namespace Gherkin

/-- The arguments that a sentence gives to a step. At most one of the two parts is not empty. -/
structure StepArguments where
  positional : List Text := []
  named : Record := Record.empty
  deriving DecidableEq, Repr

namespace StepArguments

def get? (a : StepArguments) (index : Nat) : Option Text := a.positional[index]?

def byName? (a : StepArguments) (name : Text) : Option Text := a.named.get? name

end StepArguments

/-- A pattern: its text, the program that searches for it, and the names of its groups in order. A
group without a name has none in the list, which begins with the first group after the whole
match. -/
structure StepPattern where
  text : Text
  program : Regex.Program
  groupNames : List (Option Text)

namespace StepPattern

/-- The names of the groups of an expression by number, starting from one. -/
def namesOf (e : Regex.Expr) : List (Option Text) :=
  let groups := e.groups
  let count := (groups.map Prod.fst).foldl max 0
  (List.range count).map fun i ↦ (groups.lookup (i + 1)).join

/-- The pattern that a text spells, unless the text is not well formed. -/
def ofText (text : Text) : Except Regex.PatternFault StepPattern := do
  let e ← Regex.Expr.ofPattern text
  return ⟨text, Regex.Program.ofExpr e, namesOf e⟩

def isNamed (p : StepPattern) : Bool := p.groupNames.any Option.isSome

/-- The number of each group beside its name. -/
def groups (p : StepPattern) : List (Nat × Option Text) :=
  p.groupNames.zipIdx.map fun (name, i) ↦ (i + 1, name)

/-- The arguments that a sentence gives if the pattern occurs in it. A group that took no part in
the match gives the empty text. -/
def match? (p : StepPattern) (sentence : Text) : Option StepArguments := do
  let places ← p.program.search sentence
  let textOf (index : Nat) : Text := (Regex.groupText sentence places index).getD []
  if p.isNamed then
    let named := p.groups.filterMap fun (index, name?) ↦ name?.map fun name ↦ (name, textOf index)
    return { named := Record.ofList named }
  else
    return { positional := p.groups.map fun g ↦ textOf g.1 }

end StepPattern

end Gherkin
