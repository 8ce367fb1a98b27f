import Gherkin.Regex.Brackets
import Gherkin.Regex.Footprint

/-!
# Patterns in written form

A pattern is read from left to right with a stack of the groups that are open. Every turn of the
reading uses up at least one character, so the number of turns is bounded by the length of the
pattern.

Look-around and back references are refused, as are patterns that could match half a character, are
nested too deeply, or grow too large.
-/

namespace Gherkin.Regex

/-- How often something is repeated. -/
structure Count where
  least : Nat
  most : Option Nat
  deriving DecidableEq, Repr

def maxCount : Nat := 4294967295

/-- A number with white space around it. -/
def readNumber (fl : Flags) (t : Text) : Reading Nat :=
  let rec digits (fuel : Nat) (t : Text) : Text × Text :=
    match fuel, t with
    | fuel + 1, c :: rest =>
      if c.isDigit then
        let (ds, after) := digits fuel (skipSpace fl.verbose rest)
        (c :: ds, after)
      else ([], t)
    | _, t => ([], t)
  let t := Text.trimStart t
  let (ds, after) := digits t.length t
  let n := ds.foldl (fun n c ↦ 10 * n + (c.toNat - 48)) 0
  if ds.isEmpty ∨ maxCount < n then .error .badRepetition
  else .ok (n, skipSpace fl.verbose (Text.trimStart after))

/-- The numbers in braces; the text begins behind the opening brace. -/
def readCount (fl : Flags) (t : Text) : Reading Count :=
  let close (count : Count) (t : Text) : Reading Count :=
    match t with
    | '\x7d' :: rest =>
      if count.most.any (· < count.least) then .error .badRepetition else .ok (count, rest)
    | _ => .error .badRepetition
  match readNumber fl (skipSpace fl.verbose t) with
  | .error e => .error e
  | .ok (least, after) =>
    if after.head? = some ',' then
      let after := advance fl after
      if after.head? = some '\x7d' then close ⟨least, none⟩ after
      else
        match readNumber fl after with
        | .error e => .error e
        | .ok (most, after) => close ⟨least, some most⟩ after
    else close ⟨least, some least⟩ after

/-- Flags with the named ones switched on, or off behind a hyphen; the text begins at the first.
What is left begins with the colon or the parenthesis that ends the flags. The list holds what came.
-/
def readFlags (fl : Flags) (on : Bool) (seen : List Char) :
    Text → Except PatternFault (Flags × List Char × Text)
  | [] => .error .badFlags
  | c :: rest =>
    if c = ':' ∨ c = ')' then
      if seen.head? = some '-' then .error .badFlags else .ok (fl, seen, c :: rest)
    else if c ∈ seen then .error .badFlags
    else
      let go (fl : Flags) (on : Bool) := readFlags fl on (c :: seen) rest
      match c with
      | '-' => go fl false
      | 'i' => go { fl with ignoreCase := on } on
      | 'm' => go { fl with multiLine := on } on
      | 's' => go { fl with dotMatchesNewline := on } on
      | 'U' => go { fl with swapGreed := on } on
      | 'u' => go { fl with unicode := on } on
      | 'R' => go { fl with crlf := on } on
      | 'x' => go { fl with verbose := on } on
      | _ => .error .badFlags

/-- The name of a group up to the closing angle bracket. -/
def readGroupName (t : Text) : Reading Text :=
  let name := t.takeWhile (· ≠ '>')
  let isInner (c : Char) : Bool := Unicode.isAlphanumeric c || c ∈ ['_', '.', '[', ']']
  match t.dropWhile (· ≠ '>'), name with
  | _ :: after, c :: cs =>
    if (c = '_' ∨ Unicode.isAlphabetic c) ∧ cs.all isInner then .ok (name, after)
    else .error .badGroupName
  | _, _ => .error .badGroupName

/-- What an opening parenthesis begins. -/
inductive Opening where
  /-- A group that remembers what it matches. -/
  | capture (name : Option Text)
  /-- A group that does not, with flags for what it holds. -/
  | plain (flags : Flags)
  /-- No group: flags for what follows. -/
  | setFlags (flags : Flags)

/-- What begins behind an opening parenthesis. -/
def readOpening (fl : Flags) (t : Text) : Reading Opening :=
  let t := skipSpace fl.verbose t
  let starts (p : String) : Bool := Text.startsWith t p.toList
  if starts "?=" || starts "?!" || starts "?<=" || starts "?<!" then .error .lookAround
  else if starts "?P<" then (readGroupName (t.drop 3)).map fun (n, r) ↦ (.capture (some n), r)
  else if starts "?<" then (readGroupName (t.drop 2)).map fun (n, r) ↦ (.capture (some n), r)
  else if starts "?" then
    match readFlags fl true [] t.tail with
    | .error e => .error e
    | .ok (fl', _, ':' :: rest) => .ok (.plain fl', rest)
    | .ok (fl', _ :: _, rest) => .ok (.setFlags fl', rest.tail)
    | .ok (_, [], _) => .error .nothingToRepeat
  else .ok (.capture none, t)

/-- An expression with how deeply its written form is nested. -/
structure Nested where
  expr : Expr
  depth : Nat

/-- What stands in a row: an expression, or flags, which cannot be repeated. -/
inductive RowItem where
  | expr (e : Nested)
  | flags

/-- A group that is open: the row being read and the alternatives before it, both backwards, and how
the group around it goes on. -/
structure OpenGroup where
  row : List RowItem := []
  alternatives : List Nested := []
  /-- The number and the name under which the group remembers. -/
  capture : Option (Nat × Option Text) := none
  /-- The flags that hold behind the group. -/
  outerFlags : Flags := {}

/-- The state of the reading: the groups that are open, innermost first. -/
structure ReadState where
  flags : Flags
  groups : List OpenGroup
  captures : Nat
  names : List Text

/-- A row as one expression. -/
def closeRow (row : List RowItem) : Nested :=
  let exprs := row.reverse.filterMap fun
    | .expr e => some e
    | .flags => none
  let depth := exprs.foldl (fun d e ↦ max d e.depth) 0
  ⟨.concat (exprs.map (·.expr)), if row.length ≤ 1 then depth else depth + 1⟩

/-- The alternatives of a group as one expression. -/
def OpenGroup.close (g : OpenGroup) : Nested :=
  let all := (closeRow g.row :: g.alternatives).reverse
  let depth := all.foldl (fun d e ↦ max d e.depth) 0
  ⟨.alternation (all.map (·.expr)), if all.length ≤ 1 then depth else depth + 1⟩

def maxDepth : Nat := 250

namespace ReadState

/-- The state with one more item in the row. -/
def push (s : ReadState) (item : RowItem) : ReadState :=
  match s.groups with
  | [] => s
  | g :: gs => { s with groups := { g with row := item :: g.row } :: gs }

def pushExpr (s : ReadState) (e : Expr) (depth : Nat) : ReadState := s.push (.expr ⟨e, depth⟩)

def pushSet (s : ReadState) (set : CharSet) (depth : Nat) : ReadState :=
  s.pushExpr (.ofSet set !s.flags.unicode) depth

/-- The last expression of the row repeated. -/
def repeatLast (s : ReadState) (count : Count) (lazily : Bool) : Except PatternFault ReadState :=
  match s.groups with
  | { row := .expr e :: row, alternatives, capture, outerFlags } :: gs =>
    let greedy := lazily == s.flags.swapGreed
    let item := RowItem.expr ⟨Expr.repeatOf count.least count.most greedy e.expr, e.depth + 1⟩
    .ok { s with groups := ⟨item :: row, alternatives, capture, outerFlags⟩ :: gs }
  | _ => .error .nothingToRepeat

/-- What an opening parenthesis begins. -/
def openGroup (s : ReadState) : Opening → Except PatternFault ReadState
  | .setFlags fl => .ok { s.push .flags with flags := fl }
  | .plain fl =>
    .ok { s with flags := fl, groups := { outerFlags := s.flags } :: s.groups }
  | .capture name =>
    let index := s.captures + 1
    if name.any s.names.contains then .error .repeatedGroupName
    else .ok { s with
      captures := index
      names := name.toList ++ s.names
      groups := { capture := some (index, name), outerFlags := s.flags } :: s.groups }

/-- The innermost group closed and put into the row around it. -/
def closeGroup (s : ReadState) : Except PatternFault ReadState :=
  match s.groups with
  | g :: outer :: gs =>
    let inner := g.close
    let expr := match g.capture with
      | some (index, name) => .group index name inner.expr
      | none => inner.expr
    .ok <| { s with flags := g.outerFlags, groups := outer :: gs }.pushExpr expr (inner.depth + 1)
  | _ => .error .unopenedGroup

/-- The row closed and put among the alternatives of its group. -/
def closeAlternative (s : ReadState) : ReadState :=
  match s.groups with
  | [] => s
  | g :: gs =>
    { s with groups := { g with row := [], alternatives := closeRow g.row :: g.alternatives } :: gs }

/-- One symbol in the row. -/
def pushSymbol (s : ReadState) : Symbol → Except PatternFault ReadState
  | .literal c asByte =>
    if !s.flags.unicode ∧ asByte ∧ 128 ≤ c.toNat then .error .halfCharacter
    else .ok (s.pushExpr (letterExpr s.flags c) 0)
  | .set set => .ok (s.pushSet set 0)
  | .look a => .ok (s.pushExpr (.look a) 0)
  | .dot => (dotSet s.flags).map (s.pushSet · 0)

end ReadState

/-- A question mark behind a repetition. -/
def readLazily (t : Text) : Bool × Text :=
  match t with
  | '?' :: rest => (true, rest)
  | _ => (false, t)

/-- One turn of the reading at the character `c`, with what follows it. -/
def readOne (s : ReadState) (c : Char) (rest : Text) : Reading ReadState :=
  let fl := s.flags
  let repeatWith (count : Count) (rest : Text) : Reading ReadState :=
    let (lazily, rest) := readLazily rest
    (s.repeatLast count lazily).map (·, rest)
  match c with
  | '(' =>
    match readOpening fl rest with
    | .error e => .error e
    | .ok (opening, rest) => (s.openGroup opening).map (·, rest)
  | ')' => s.closeGroup.map (·, rest)
  | '|' => .ok (s.closeAlternative, rest)
  | '[' =>
    (readBrackets fl rest).map fun ((set, depth), rest) ↦ (s.pushSet set depth, rest)
  | '?' => repeatWith ⟨0, some 1⟩ rest
  | '*' => repeatWith ⟨0, none⟩ rest
  | '+' => repeatWith ⟨1, none⟩ rest
  | '\x7b' =>
    match readCount fl rest with
    | .error e => .error e
    | .ok (count, rest) => repeatWith count (skipSpace fl.verbose rest)
  | '\\' =>
    match readEscape fl rest with
    | .error e => .error e
    | .ok (symbol, rest) => (s.pushSymbol symbol).map (·, rest)
  | '.' => (s.pushSymbol .dot).map (·, rest)
  | '^' =>
    let a :=
      if !fl.multiLine then Assertion.textStart else if fl.crlf then .crlfStart else .lineStart
    (s.pushSymbol (.look a)).map (·, rest)
  | '$' =>
    let a := if !fl.multiLine then Assertion.textEnd else if fl.crlf then .crlfEnd else .lineEnd
    (s.pushSymbol (.look a)).map (·, rest)
  | c => (s.pushSymbol (.literal c false)).map (·, rest)

/-- All turns of the reading. -/
def readAll (fuel : Nat) (s : ReadState) (t : Text) : Except PatternFault ReadState :=
  match fuel, skipSpace s.flags.verbose t with
  | _, [] => .ok s
  | 0, _ => .error .unclosedGroup
  | fuel + 1, c :: rest =>
    match readOne s c rest with
    | .error e => .error e
    | .ok (s, rest) => readAll fuel s rest

/-- The expression of a pattern. Letter case does not count unless the pattern says so. -/
def Expr.ofPattern (pattern : Text) : Except PatternFault Expr :=
  match readAll pattern.length ⟨{}, [{}], 0, []⟩ pattern with
  | .error e => .error e
  | .ok { groups := [g], .. } =>
    let whole := g.close
    if maxDepth < whole.depth then .error .tooDeep
    else if !whole.expr.fits then .error .tooLarge
    else .ok whole.expr
  | .ok _ => .error .unclosedGroup

end Gherkin.Regex
