import Gherkin.Regex.Expr
import Gherkin.Unicode.RangeTable

/-!
# Programs of regular expressions

An expression is turned into a program of numbered instructions, each of which names the ones that
follow it. Where an instruction names two, the first is preferred, and the order of preference among
all ways through the program is the order of preference among matches.
-/

namespace Gherkin.Regex

/-- One instruction. -/
inductive Inst where
  /-- Goes on behind one character of a set. -/
  | consume (table : Unicode.RangeTable) (next : Nat)
  /-- Goes on in two ways, of which the first is preferred. -/
  | fork (first second : Nat)
  /-- Goes on where an assertion holds. -/
  | look (a : Assertion) (next : Nat)
  /-- Remembers the place and goes on. -/
  | save (slot : Nat) (next : Nat)
  /-- A match ends here. -/
  | accept

/-- The instructions of an expression and the number of the one to begin with. -/
structure Program where
  insts : Array Inst
  start : Nat

namespace Program

/-- Instructions laid down so far. -/
abbrev Insts := Array Inst

/-- One more instruction, with its number. -/
def emit (insts : Insts) (i : Inst) : Nat × Insts := (insts.size, insts.push i)

/-- A fork that prefers to go on in a loop if the loop is greedy, and to leave it if not. -/
def loopFork (greedy : Bool) (inside outside : Nat) : Inst :=
  if greedy then .fork inside outside else .fork outside inside

/-- A step applied a number of times, starting from `next`. -/
def times (n : Nat) (step : Nat → Insts → Nat × Insts) (next : Nat) (insts : Insts) : Nat × Insts :=
  match n with
  | 0 => (next, insts)
  | n + 1 =>
    let (entry, insts) := step next insts
    times n step entry insts

/-- The instructions of an expression that go on at `next`, laid down behind others. The result is
the number to begin with. A loop around something that may match the empty text is entered through a
fork of its own, which keeps the order of preference right. -/
def compile (e : Expr) (next : Nat) (insts : Insts) : Nat × Insts :=
  match e with
  | .empty => (next, insts)
  | .literal t =>
    t.foldr (fun c (next, insts) ↦ emit insts (.consume (.single c) next)) (next, insts)
  | .set s _ => emit insts (.consume ⟨s.ranges.toArray⟩ next)
  | .look a => emit insts (.look a next)
  | .group index _ e =>
    let (close, insts) := emit insts (.save (2 * index + 1) next)
    let (entry, insts) := compile e close insts
    emit insts (.save (2 * index) entry)
  | .append e₁ e₂ =>
    let (entry, insts) := compile e₂ next insts
    compile e₁ entry insts
  | .either e₁ e₂ =>
    let (second, insts) := compile e₂ next insts
    let (first, insts) := compile e₁ next insts
    emit insts (.fork first second)
  | .repeated least (some most) greedy e =>
    let optional (entry : Nat) (insts : Insts) : Nat × Insts :=
      let (inside, insts) := compile e entry insts
      emit insts (loopFork greedy inside next)
    let (entry, insts) := times (most - least) optional next insts
    times least (compile e) entry insts
  | .repeated least none greedy e =>
    let (turn, insts) := emit insts .accept
    let (inside, insts) := compile e turn insts
    let insts := insts.set! turn (loopFork greedy inside next)
    if least = 0 then
      if e.minLength.any (0 < ·) then (turn, insts) else emit insts (loopFork greedy inside next)
    else times (least - 1) (compile e) inside insts

/-- The program of an expression, which remembers the place of the whole match under the number
zero. -/
def ofExpr (e : Expr) : Program :=
  let (start, insts) := compile (.group 0 none e) 0 #[.accept]
  ⟨insts, start⟩

end Program

end Gherkin.Regex
