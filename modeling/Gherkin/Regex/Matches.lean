import Gherkin.Regex.Search

/-!
# All matches in a text

The matches of a program that never matches the empty text are found from the left, each behind the
one before it. A text in which every match is replaced is put together from what stands between the
matches and what takes their places; a text without matches is handed back as it is.
-/

namespace Gherkin.Regex

namespace Program

/-- What the matches remember that a search from a place on finds, one behind the other. Every
search goes on where the last match ended, and sees the last character of that match before it. -/
def capturesFrom (p : Program) (index : Nat) (before : Option Char) (t : Text) :
    List (List (Nat × Nat)) :=
  match p.run index before [] none t with
  | none => []
  | some saves =>
    let stop := (saves.lookup 1).getD index
    match _h : t.drop (stop - (index + 1)) with
    | [] => [saves]
    | last :: rest => saves :: p.capturesFrom stop (some last) rest
termination_by t.length
decreasing_by
  have := congrArg List.length _h
  simp only [List.length_drop, List.length_cons] at this
  omega

/-- What the matches in a text remember, from the left and without overlap. -/
def captures (p : Program) (t : Text) : List (List (Nat × Nat)) := p.capturesFrom 0 none t

end Program

/-- A text after its matches were replaced. -/
inductive Replaced where
  /-- The text itself, in which nothing was found. -/
  | borrowed (t : Text)
  /-- A text that was put together anew. -/
  | owned (t : Text)
  deriving DecidableEq, Repr

def Replaced.text : Replaced → Text
  | borrowed t | owned t => t

/-- A text from a place on, with values in the places of matches. -/
def splice (value : List (Nat × Nat) → Text) (t : Text) (index : Nat) :
    List (List (Nat × Nat)) → Text
  | [] => t.drop index
  | saves :: later =>
    let start := (saves.lookup 0).getD index
    let stop := (saves.lookup 1).getD index
    (t.drop index).take (start - index) ++ value saves ++ splice value t stop later

/-- A text with every match replaced by its value. -/
def Program.replaceAll (p : Program) (value : List (Nat × Nat) → Text) (t : Text) : Replaced :=
  match p.captures t with
  | [] => .borrowed t
  | found => .owned (splice value t 0 found)

end Gherkin.Regex
