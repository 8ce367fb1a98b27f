import Gherkin.Regex.Symbol

/-!
# Sets in brackets

A set in brackets holds characters, ranges, named sets and further sets in brackets, and may be
joined to others by intersection and difference. Sets are read with a stack of the brackets that are
open, and nesting is limited.
-/

namespace Gherkin.Regex

/-- An operation between two parts of a bracketed set. -/
inductive SetOp where
  | inter
  | diff
  | symmDiff
  deriving DecidableEq, Repr

/-- A bracket that is open: what it holds since the last operation, and what that operation waits
with. -/
structure OpenSet where
  negated : Bool
  ranges : Unicode.Ranges
  /-- How many items were read since the last operation. -/
  items : Nat
  /-- How deeply the deepest of these items is nested. -/
  depth : Nat
  /-- The operation, what stands before it, and how deeply that is nested. -/
  pending : Option (SetOp × CharSet × Nat)

namespace OpenSet

/-- The bracket with one more item, which is nested as deeply as `depth` tells. -/
def add (o : OpenSet) (ranges : Unicode.Ranges) (depth : Nat) : OpenSet :=
  { o with ranges := ranges ++ o.ranges, items := o.items + 1, depth := max o.depth depth }

/-- What an open bracket amounts to so far. -/
def value (fl : Flags) (o : OpenSet) : CharSet :=
  let right := CharSet.ofRanges o.ranges
  match o.pending with
  | none => right
  | some (op, left, _) =>
    let fold (s : CharSet) : CharSet :=
      if !fl.ignoreCase then s else if fl.unicode then s.foldCase else s.foldAsciiCase
    match op with
    | .inter => (fold left).inter (fold right)
    | .diff => (fold left).diff (fold right)
    | .symmDiff => (fold left).symmDiff (fold right)

/-- How deeply it is nested so far. A union of several items is one level, an operation another. -/
def nesting (o : OpenSet) : Nat :=
  let right := if o.items ≤ 1 then o.depth else o.depth + 1
  match o.pending with
  | none => right
  | some (_, _, left) => max left right + 1

/-- The bracket behind an operation. -/
def operate (fl : Flags) (o : OpenSet) (op : SetOp) : OpenSet :=
  ⟨o.negated, [], 0, 0, some (op, o.value fl, o.nesting)⟩

end OpenSet

/-- The bracket that opens at a text which begins behind `[`. A caret negates, and hyphens or one
closing bracket at the front stand for themselves. -/
def openSet (fl : Flags) (t : Text) : Reading OpenSet :=
  let t := skipSpace fl.verbose t
  let (negated, t) := if t.head? = some '^' then (true, advance fl t) else (false, t)
  let rec hyphens (fuel : Nat) (count : Nat) (t : Text) : Nat × Text :=
    match fuel, t with
    | fuel + 1, '-' :: rest => hyphens fuel (count + 1) (skipSpace fl.verbose rest)
    | _, t => (count, t)
  let (count, t) := hyphens t.length 0 t
  let (o, t) :=
    if 0 < count then (OpenSet.mk negated [(45, 45)] count 0 none, t)
    else if t.head? = some ']' then (OpenSet.mk negated [(93, 93)] 1 0 none, advance fl t)
    else (OpenSet.mk negated [] 0 0 none, t)
  if t.isEmpty then .error .unclosedClass else .ok (o, t)

/-- A set such as `[:alpha:]` inside brackets; the text begins behind `[`. -/
def namedAscii? (t : Text) : Option (CharSet × Bool × Text) :=
  match t with
  | ':' :: rest =>
    let (negated, rest) := if rest.head? = some '^' then (true, rest.tail) else (false, rest)
    let name := rest.takeWhile (· ≠ ':')
    match Text.afterPrefix? [':', ']'] (rest.dropWhile (· ≠ ':')) with
    | some after => (CharSet.ascii? (String.ofList name)).map (·, negated, after)
    | none => none
  | _ => none

/-- The code point of a symbol that stands for one character. -/
def literalCode (fl : Flags) : Symbol → Except PatternFault Nat
  | .literal c asByte =>
    if fl.unicode || c.toNat < 128 then .ok c.toNat
    else if asByte then .error .halfCharacter
    else .error .badClass
  | _ => .error .badRange

/-- A symbol inside brackets. -/
def readSetSymbol (fl : Flags) (t : Text) : Reading Symbol :=
  match t with
  | [] => .error .unclosedClass
  | '\\' :: rest => readEscape fl rest
  | c :: rest => .ok (.literal c false, rest)

/-- A character, a range or a set inside brackets. -/
def readSetItem (fl : Flags) (t : Text) : Reading Unicode.Ranges :=
  match readSetSymbol fl t with
  | .error e => .error e
  | .ok (first, after) =>
    let after := skipSpace fl.verbose after
    let next := peek fl.verbose after
    if after.isEmpty then .error .unclosedClass
    else if after.head? ≠ some '-' ∨ next = some ']' ∨ next = some '-' then
      match first with
      | .set s => .ok (s.ranges, after)
      | .literal .. => (literalCode fl first).map fun n ↦ ([(n, n)], after)
      | _ => .error .badClass
    else
      match readSetSymbol fl (advance fl after) with
      | .error e => .error e
      | .ok (last, after) =>
        match literalCode fl first, literalCode fl last with
        | .ok a, .ok b => if a ≤ b then .ok ([(a, b)], after) else .error .badRange
        | .error e, _ => .error e
        | _, .error e => .error e

/-- The brackets that are open, innermost first, read on until the outermost is closed. The number
is how deeply that one is nested. -/
def readSet (fl : Flags) (fuel : Nat) (stack : List OpenSet) (t : Text) :
    Reading (CharSet × Nat) :=
  match fuel, stack, skipSpace fl.verbose t with
  | 0, _, _ | _, [], _ | _, _, [] => .error .unclosedClass
  | fuel + 1, o :: outer, c :: rest =>
    let operate (op : SetOp) : Reading (CharSet × Nat) :=
      readSet fl fuel (o.operate fl op :: outer) rest.tail
    let doubled := rest.head? = some c
    if c = '[' then
      match namedAscii? rest with
      | some (s, negated, after) =>
        match finishSet fl negated s with
        | .error e => .error e
        | .ok s => readSet fl fuel (o.add s.ranges 0 :: outer) after
      | none =>
        match openSet fl rest with
        | .error e => .error e
        | .ok (inner, after) => readSet fl fuel (inner :: o :: outer) after
    else if c = ']' then
      match finishSet fl o.negated (o.value fl), outer with
      | .error e, _ => .error e
      | .ok s, [] => .ok ((s, o.nesting + 1), rest)
      | .ok s, p :: outer => readSet fl fuel (p.add s.ranges (o.nesting + 1) :: outer) rest
    else if c = '&' ∧ doubled then operate .inter
    else if c = '-' ∧ doubled then operate .diff
    else if c = '~' ∧ doubled then operate .symmDiff
    else
      match readSetItem fl (c :: rest) with
      | .error e => .error e
      | .ok (ranges, after) => readSet fl fuel (o.add ranges 0 :: outer) after

/-- A bracketed set with how deeply it is nested; the text begins behind the bracket. -/
def readBrackets (fl : Flags) (t : Text) : Reading (CharSet × Nat) :=
  match openSet fl t with
  | .error e => .error e
  | .ok (o, after) => readSet fl (t.length + 1) [o] after

end Gherkin.Regex
