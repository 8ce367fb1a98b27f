import Gherkin.Feature.Placeholder
import Gherkin.Regex.Matches

/-!
# Placeholders as matches of a pattern

The placeholders of a text are the matches of the pattern `<([^>\s][^>]*)>`. A search for all of
them gives their names, and a replacement of all of them fills in the values of a row.
-/

namespace Gherkin.Placeholder

open Regex (CharSet Expr Program Replaced)

/-- Every character but a closing bracket. -/
def inName : CharSet := (CharSet.single '>').compl

/-- Every character but a closing bracket and white space. -/
def beginsName : CharSet := (CharSet.spaces.union (CharSet.single '>')).compl

/-- The pattern `<([^>\s][^>]*)>`, whose first group is the name. -/
def expr : Expr :=
  let name : Expr := .append (.set beginsName false) (.repeated 0 none true (.set inName false))
  .append (.literal ['<']) (.append (.group 1 none name) (.literal ['>']))

def program : Program := .ofExpr expr

/-- The names of the placeholders of a text, read off the matches. -/
def names (t : Text) : List Text :=
  (program.captures t).filterMap fun saves ↦ Regex.groupText t saves 1

/-- What takes the place of a match: the value of the name in the row, or else the match itself. -/
def valueIn (row : Record) (t : Text) (saves : List (Nat × Nat)) : Text :=
  ((Regex.groupText t saves 1).bind row.get?).getD ((Regex.groupText t saves 0).getD [])

/-- A text with the values of a row in the places of the matches. -/
def fill (row : Record) (t : Text) : Replaced := program.replaceAll (valueIn row t) t

end Gherkin.Placeholder
