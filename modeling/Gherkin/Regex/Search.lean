import Gherkin.Regex.Program

/-!
# Searching a text

All ways through a program are followed at once, character by character. At each place the ways are
kept in the order of preference, and of two ways that reach the same instruction only the preferred
one is followed further, so the work is bounded by the length of the text times the size of the
program. A match that begins further left is preferred to every match that begins later.
-/

namespace Gherkin.Regex

/-- A way through the program: the instruction it has reached and the places it remembers, the last
one first. -/
structure Thread where
  pc : Nat
  saves : List (Nat × Nat)

/-- A place in a text: how many characters precede it, and its two neighbours. -/
structure Place where
  index : Nat
  before : Option Char
  after : Option Char

/-- The ways that wait for a character, in order of preference backwards, and the instructions that
were reached at this place. -/
structure Frontier where
  seen : Array Bool
  waiting : List Thread

namespace Program

/-- The frontier after ways were followed up to the instructions that wait for a character or
accept. Every turn either drops a way or marks an instruction, which bounds the turns. -/
def follow (p : Program) (place : Place) (fuel : Nat) (ways : List Thread) (f : Frontier) :
    Frontier :=
  match fuel, ways with
  | 0, _ | _, [] => f
  | fuel + 1, t :: rest =>
    if f.seen.getD t.pc true then p.follow place fuel rest f
    else
      let f := { f with seen := f.seen.set! t.pc true }
      match p.insts[t.pc]? with
      | none => p.follow place fuel rest f
      | some (.fork first second) =>
        p.follow place fuel ({ t with pc := first } :: { t with pc := second } :: rest) f
      | some (.look a next) =>
        if a.holds place.before place.after then
          p.follow place fuel ({ t with pc := next } :: rest) f
        else p.follow place fuel rest f
      | some (.save slot next) =>
        p.follow place fuel (⟨next, (slot, place.index) :: t.saves⟩ :: rest) f
      | some (.consume ..) | some .accept =>
        p.follow place fuel rest { f with waiting := t :: f.waiting }

/-- The ways of a frontier in order of preference, up to one that accepts; and what that one
remembers. -/
def untilAccept (p : Program) : List Thread → List Thread × Option (List (Nat × Nat))
  | [] => ([], none)
  | t :: rest =>
    match p.insts[t.pc]? with
    | some .accept => ([], some t.saves)
    | _ =>
      let (ways, found) := p.untilAccept rest
      (t :: ways, found)

/-- The ways that get past a character. -/
def advance (p : Program) (c : Char) (ways : List Thread) : List Thread :=
  ways.filterMap fun (t : Thread) ↦
    match p.insts[t.pc]? with
    | some (.consume table next) => if table.contains c then some { t with pc := next } else none
    | _ => none

/-- What the preferred match remembers, where `ways` have come this far and `best` was found among
the ways that are preferred to all others found so far. -/
def run (p : Program) (index : Nat) (before : Option Char) (ways : List Thread)
    (best : Option (List (Nat × Nat))) (t : Text) : Option (List (Nat × Nat)) :=
  let place : Place := ⟨index, before, t.head?⟩
  let ways := if best.isNone then ways ++ [⟨p.start, []⟩] else ways
  let fuel := ways.length + 2 * p.insts.size + 1
  let f := p.follow place fuel ways ⟨Array.replicate p.insts.size false, []⟩
  let (ways, found) := p.untilAccept f.waiting.reverse
  let best := found <|> best
  match t with
  | [] => best
  | c :: rest =>
    if ways.isEmpty && best.isSome then best
    else p.run (index + 1) (some c) (p.advance c ways) best rest

/-- The places that the preferred match in a text remembers: where each group begins and ends. -/
def search (p : Program) (t : Text) : Option (List (Nat × Nat)) := p.run 0 none [] none t

end Program

/-- The text between the places remembered for a group; nothing if the group took no part. -/
def groupText (t : Text) (saves : List (Nat × Nat)) (index : Nat) : Option Text := do
  let start ← saves.lookup (2 * index)
  let stop ← saves.lookup (2 * index + 1)
  return (t.drop start).take (stop - start)

end Gherkin.Regex
