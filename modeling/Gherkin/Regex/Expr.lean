import Gherkin.Regex.CharSet

/-!
# Regular expressions

The expressions that patterns stand for. All spelling is gone: letter case, line modes and
greediness are worked into the sets, the assertions and the repetitions.

Expressions are put together by `concat`, `alternation`, `repeatOf` and `ofSet`, which keep them in
normal form. The normal form is more than a matter of size: an alternation whose branches begin
alike is entered behind what they share, so that the branches are preferred one to the other only
from there on, and `.*b|.*c` finds what `.*(?:b|c)` finds.
-/

namespace Gherkin.Regex

/-- What may be asked of a place between two characters. -/
inductive Assertion where
  /-- The text begins here. -/
  | textStart
  /-- The text ends here. -/
  | textEnd
  /-- The text or a line begins here. -/
  | lineStart
  /-- The text or a line ends here. -/
  | lineEnd
  /-- As `lineStart`, where a carriage return and a line feed end a line alone or together. -/
  | crlfStart
  /-- As `lineEnd`, where a carriage return and a line feed end a line alone or together. -/
  | crlfEnd
  /-- A word begins or ends here; in the ASCII sense if the flag is set. -/
  | wordBoundary (ascii : Bool)
  /-- No word begins or ends here. -/
  | notWordBoundary (ascii : Bool)
  /-- A word begins here. -/
  | wordStart (ascii : Bool)
  /-- A word ends here. -/
  | wordEnd (ascii : Bool)
  /-- No word character precedes. -/
  | wordStartHalf (ascii : Bool)
  /-- No word character follows. -/
  | wordEndHalf (ascii : Bool)
  deriving DecidableEq, Repr

/-- Whether a character is a word character, in the ASCII sense or in the full one. -/
def isWordChar (ascii : Bool) (c : Char) : Bool :=
  if ascii then c.isAlphanum || c == '_' else Unicode.isWord c

/-- Whether an assertion holds between the character before and the character after, either of which
is missing at an end of the text. -/
def Assertion.holds (before after : Option Char) : Assertion → Bool
  | textStart => before.isNone
  | textEnd => after.isNone
  | lineStart => before.isNone || before == some '\n'
  | lineEnd => after.isNone || after == some '\n'
  | crlfStart =>
    before.isNone || before == some '\n' || before == some '\r' && after != some '\n'
  | crlfEnd => after.isNone || after == some '\r' || after == some '\n' && before != some '\r'
  | wordBoundary a => before.any (isWordChar a) != after.any (isWordChar a)
  | notWordBoundary a => before.any (isWordChar a) == after.any (isWordChar a)
  | wordStart a => !before.any (isWordChar a) && after.any (isWordChar a)
  | wordEnd a => before.any (isWordChar a) && !after.any (isWordChar a)
  | wordStartHalf a => !before.any (isWordChar a)
  | wordEndHalf a => !after.any (isWordChar a)

/-- A regular expression. Rows and alternations are nested to the right. -/
inductive Expr where
  /-- Matches the empty text. -/
  | empty
  /-- Matches a text, which is not empty. -/
  | literal (t : Text)
  /-- Matches one character of a set. The flag tells sets that were written for ASCII text from
  sets that were written for all characters. -/
  | set (s : CharSet) (ascii : Bool)
  /-- Matches the empty text where an assertion holds. -/
  | look (a : Assertion)
  /-- Matches what the expression matches and remembers it under a number and maybe a name. -/
  | group (index : Nat) (name : Option Text) (e : Expr)
  /-- Matches one expression and then the other. -/
  | append (e₁ e₂ : Expr)
  /-- Matches one of the expressions; the first is preferred. -/
  | either (e₁ e₂ : Expr)
  /-- Matches the expression at least `least` times and at most `most` times if there is a bound;
  more often is preferred if the repetition is greedy, less often if not. -/
  | repeated (least : Nat) (most : Option Nat) (greedy : Bool) (e : Expr)
  deriving DecidableEq, Repr

namespace Expr

/-- The length of the shortest match. There is none as soon as a part of the expression has no match
at all. -/
def minLength : Expr → Option Nat
  | empty | look _ => some 0
  | literal t => some t.length
  | set s _ => if s.ranges.isEmpty then none else some 1
  | group _ _ e => e.minLength
  | append e₁ e₂ => do return (← e₁.minLength) + (← e₂.minLength)
  | either e₁ e₂ => do return min (← e₁.minLength) (← e₂.minLength)
  | repeated least _ _ e => e.minLength.map (least * ·)

/-- Whether the expression can match the empty text only. -/
def isNullOnly : Expr → Bool
  | empty | look _ => true
  | literal _ | set .. => false
  | group _ _ e => e.isNullOnly
  | append e₁ e₂ | either e₁ e₂ => e₁.isNullOnly && e₂.isNullOnly
  | repeated _ most _ e => most == some 0 || e.isNullOnly

/-- Whether an assertion is asked at the beginning of every match. -/
def beginsWith (a : Assertion) : Expr → Bool
  | empty | literal _ | set .. => false
  | look b => a = b
  | group _ _ e => e.beginsWith a
  | append e₁ e₂ => e₁.beginsWith a || e₁.isNullOnly && e₂.beginsWith a
  | either e₁ e₂ => e₁.beginsWith a && e₂.beginsWith a
  | repeated least _ _ e => 0 < least && e.beginsWith a

/-- Whether an assertion is asked at the end of every match. -/
def endsWith (a : Assertion) : Expr → Bool
  | empty | literal _ | set .. => false
  | look b => a = b
  | group _ _ e => e.endsWith a
  | append e₁ e₂ => e₂.endsWith a || e₂.isNullOnly && e₁.endsWith a
  | either e₁ e₂ => e₁.endsWith a && e₂.endsWith a
  | repeated least _ _ e => 0 < least && e.endsWith a

def groups : Expr → List (Nat × Option Text)
  | empty | literal _ | look _ | set .. => []
  | group index name e => (index, name) :: e.groups
  | append e₁ e₂ | either e₁ e₂ => e₁.groups ++ e₂.groups
  | repeated _ _ _ e => e.groups

def size : Expr → Nat
  | empty | literal _ | look _ | set .. => 1
  | group _ _ e | repeated _ _ _ e => e.size + 1
  | append e₁ e₂ | either e₁ e₂ => e₁.size + e₂.size + 1

def nothing : Expr := set .empty true

/-- The expression of a set. A set of one character is that character. -/
def ofSet (s : CharSet) (ascii : Bool) : Expr :=
  match s.ranges with
  | [] => nothing
  | [(a, b)] => if a = b then literal [Char.ofNat a] else set s ascii
  | _ => set s ascii

/-- A repetition in its simplest form. What matches the empty text only need not be repeated, and
what is repeated no times at all is the empty text, without the groups in it. -/
def repeatOf (least : Nat) (most : Option Nat) (greedy : Bool) (e : Expr) : Expr :=
  let least := if e.isNullOnly then min least 1 else least
  let most := if e.isNullOnly then some (min (most.getD 1) 1) else most
  if least = 0 ∧ most = some 0 then empty
  else if least = 1 ∧ most = some 1 then e
  else repeated least most greedy e

def factors : Expr → List Expr
  | empty => []
  | append e₁ e₂ => e₁ :: e₂.factors
  | e => [e]

def ofFactors : List Expr → Expr
  | [] => empty
  | [e] => e
  | e :: es => append e (ofFactors es)

/-- Parts of a row with neighbouring literals made one. -/
def joinLiterals (es : List Expr) : List Expr :=
  es.foldr (fun e rest ↦
    match e, rest with
    | literal a, literal b :: rest => literal (a ++ b) :: rest
    | e, rest => e :: rest) []

def concat (es : List Expr) : Expr := ofFactors (joinLiterals (es.flatMap factors))

def branches : Expr → List Expr
  | either e₁ e₂ => e₁ :: e₂.branches
  | e => [e]

def ofBranches : List Expr → Expr
  | [] => nothing
  | [e] => e
  | e :: es => either e (ofBranches es)

/-- The set of the characters that the expressions stand for, if each is one character. -/
def characters? (es : List Expr) : Option CharSet :=
  (es.mapM fun
    | literal [c] => some (c.toNat, c.toNat)
    | _ => none).map .ofRanges

/-- The set of the characters in some of the sets that the expressions are, if each is a set. -/
def unionOfSets? (es : List Expr) : Option CharSet :=
  (es.mapM fun
    | set s _ => some s.ranges
    | _ => none).map fun (rs : List Unicode.Ranges) ↦ .ofRanges rs.flatten

/-- What two rows have in common at the beginning. -/
def commonPrefix : List Expr → List Expr → List Expr
  | e₁ :: es₁, e₂ :: es₂ => if e₁ = e₂ then e₁ :: commonPrefix es₁ es₂ else []
  | _, _ => []

/-- What all branches have in common at the beginning, if each is a row. -/
def sharedFactors (es : List Expr) : List Expr :=
  let isRow : Expr → Bool
    | append .. => true
    | _ => false
  match es with
  | e :: es =>
    if isRow e && es.all isRow then es.foldl (fun p e ↦ commonPrefix p e.factors) e.factors else []
  | [] => []

/-- Expressions of which one is to match. What the branches have in common at the beginning is put
in front of them; the number bounds how often, and the number of all parts is enough. -/
def alternationWithin (fuel : Nat) (es : List Expr) : Expr :=
  let es := es.flatMap branches
  match fuel, es with
  | _, [] => nothing
  | _, [e] => e
  | 0, es => ofBranches es
  | fuel + 1, es =>
    match characters? es <|> unionOfSets? es with
    | some s => ofSet s false
    | none =>
      let shared := sharedFactors es
      if shared.isEmpty then ofBranches es
      else
        let rest := es.map fun e ↦ concat (e.factors.drop shared.length)
        concat (shared ++ [alternationWithin fuel rest])

/-- Expressions of which one is to match, the first of them if possible. -/
def alternation (es : List Expr) : Expr :=
  alternationWithin (es.foldl (fun n e ↦ n + e.size) 0) es

end Expr

end Gherkin.Regex
